import TemplateCode.Proofs.Outcome
import TemplateCode.Proofs.Visits

/-! What the scan makes of a document. In its outcome every type is a known tag and no element
keeps, beside its name, a node that computes one. A document of this form is left alone, so that
scanning twice is scanning once, and a document is changed only where it is not of this form. -/

namespace TemplateCode.Tree

inductive Within (part : Json) : Json → Prop
  | whole : Within part part
  | item {items : List Json} {item : Json} (hitem : item ∈ items) (h : Within part item) :
    Within part (.array items)
  | field {fields : List (String × Json)} {field : String × Json} (hfield : field ∈ fields)
    (h : Within part field.2) : Within part (.object fields)

def TypeKnown (fields : List (String × Json)) : Prop :=
  ∀ found, fields.lookup "type" = some found → ∃ kind : Kind, found = .string kind.tag

def NameSettled (fields : List (String × Json)) : Prop :=
  fields.lookup "type" = some (.string Kind.markup.tag) → fields.lookup "expression" = none

def Normal (value : Json) : Prop :=
  ∀ fields, Within (.object fields) value → TypeKnown fields ∧ NameSettled fields

section Fields

variable {fields results : List (String × Json)}

theorem isMarkup_eq_true_iff :
    isMarkup fields = true ↔ fields.lookup "type" = some (.string Kind.markup.tag) := by
  rw [isMarkup]
  rcases fields.lookup "type" with _ | (_ | _ | _ | _ | _ | _) <;> simp

theorem typeKnown_of_offence? (h : offence? fields = none) : TypeKnown fields := by
  intro found hfound
  rw [offence?, hfound] at h
  cases found with
  | string tag =>
    by_cases hknown : tag ∈ tags
    · obtain ⟨kind, -, rfl⟩ := List.mem_map.1 hknown
      exact ⟨kind, rfl⟩
    · simp [hknown] at h
  | null | bool _ | number _ | array _ | object _ => cases h

theorem offence?_of_normal (htype : TypeKnown fields) (hname : NameSettled fields) :
    offence? fields = none := by
  rw [offence?]
  cases hfound : fields.lookup "type" with
  | none => rfl
  | some found =>
    obtain ⟨kind, rfl⟩ := htype found hfound
    have hknown : kind.tag ∈ tags := List.mem_map_of_mem (by cases kind <;> decide)
    by_cases hmarkup : kind = .markup
    · subst hmarkup
      simp [hknown, hname hfound]
    · simp [hknown, mt tag_injective hmarkup]

theorem folded_of_nameSettled (h : NameSettled fields) : folded fields = fields :=
  folded_eq_self fun hmarkup => h (isMarkup_eq_true_iff.1 hmarkup)

theorem lookup_type_folded : (folded fields).lookup "type" = fields.lookup "type" := by
  rw [folded]
  split
  · split
    · simp only [Fields.lookup_insert, Fields.lookup_erase, String.reduceEq, reduceIte]
    · simp only [Fields.lookup_erase, String.reduceEq, reduceIte]
  · rfl

theorem typeKnown_folded (h : TypeKnown fields) : TypeKnown (folded fields) := by
  unfold TypeKnown
  rw [lookup_type_folded]
  exact h

theorem nameSettled_folded : NameSettled (folded fields) := by
  intro htype
  rw [lookup_type_folded] at htype
  rw [folded, if_pos (isMarkup_eq_true_iff.2 htype)]
  split
  · simp only [Fields.lookup_insert, Fields.lookup_erase, String.reduceEq, reduceIte]
  · simp only [Fields.lookup_erase, reduceIte]

def FieldScanned (field result : String × Json) : Prop :=
  field.1 = result.1 ∧ scan field.2 = .ok result.2

theorem lookup_scanned (h : List.Forall₂ FieldScanned fields results) (key : String) :
    Option.Rel (fun value result => scan value = .ok result) (fields.lookup key)
      (results.lookup key) := by
  induction h with
  | nil => exact .none
  | @cons field result _ _ hfield _ ih =>
    rw [← Prod.mk.eta (p := field), ← Prod.mk.eta (p := result), Fields.lookup_cons,
      Fields.lookup_cons, ← hfield.1]
    split
    · exact .some hfield.2
    · exact ih

theorem lookup_scanned_eq_none (h : List.Forall₂ FieldScanned fields results) {key : String}
    (hnone : fields.lookup key = none) : results.lookup key = none := by
  have hlookup := lookup_scanned h key
  rw [hnone] at hlookup
  generalize results.lookup key = found at hlookup
  cases hlookup
  rfl

theorem lookup_type_scanned (h : List.Forall₂ FieldScanned fields results)
    (hknown : TypeKnown fields) : results.lookup "type" = fields.lookup "type" := by
  cases htype : fields.lookup "type" with
  | none => exact lookup_scanned_eq_none h htype
  | some value =>
    have hlookup := lookup_scanned h "type"
    obtain ⟨kind, rfl⟩ := hknown value htype
    rw [htype] at hlookup
    generalize results.lookup "type" = found at hlookup
    cases hlookup with
    | some hscan =>
      simp only [scan, Except.ok.injEq] at hscan
      rw [hscan]

theorem typeKnown_scanned (h : List.Forall₂ FieldScanned fields results)
    (hknown : TypeKnown fields) : TypeKnown results := by
  unfold TypeKnown
  rw [lookup_type_scanned h hknown]
  exact hknown

theorem nameSettled_scanned (h : List.Forall₂ FieldScanned fields results)
    (hknown : TypeKnown fields) (hname : NameSettled fields) : NameSettled results := by
  intro htag
  rw [lookup_type_scanned h hknown] at htag
  exact lookup_scanned_eq_none h (hname htag)

end Fields

section Inversion

variable {scanned : Json}

theorem settle_scanFields_eq_mapM (fields : List (String × Json)) :
    settle (scanFields fields) = fields.mapM fun field => (field.1, ·) <$> scan field.2 := by
  induction fields with
  | nil => rfl
  | cons field rest ih =>
    rw [scanFields, settle, ih, List.mapM_cons]
    cases scan field.2 <;> rfl

theorem scan_array_eq_ok {items : List Json} (h : scan (.array items) = .ok scanned) :
    ∃ results, scanned = .array results ∧
      List.Forall₂ (fun item result => scan item = .ok result) items results := by
  rw [scan, scanItems_eq_mapM, bind_eq_ok_iff] at h
  obtain ⟨results, hresults, hscanned⟩ := h
  exact ⟨results, (pure_eq_ok_iff.1 hscanned).symm, forall₂_of_mapM hresults⟩

theorem scan_object_eq_ok {fields : List (String × Json)}
    (h : scan (.object fields) = .ok scanned) :
    offence? fields = none ∧ ∃ results, scanned = .object results ∧
      List.Forall₂ FieldScanned (folded fields) results := by
  rw [scan_object] at h
  cases hoffence : offence? fields with
  | some error =>
    rw [hoffence] at h
    cases h
  | none =>
    rw [hoffence, settle_scanFields_eq_mapM] at h
    obtain ⟨results, hresults, hscanned⟩ := map_eq_ok_iff.1 h
    have hscans := forall₂_of_mapM hresults
    refine ⟨rfl, results, hscanned.symm, hscans.imp fun field result hfield => ?_⟩
    obtain ⟨value, hvalue, rfl⟩ := map_eq_ok_iff.1 hfield
    exact ⟨rfl, hvalue⟩

end Inversion

section Normal

theorem object_notWithin {value : Json} (harray : ∀ items, value ≠ .array items)
    (hobject : ∀ fields, value ≠ .object fields) (fields : List (String × Json)) :
    ¬ Within (.object fields) value := by
  intro h
  cases h with
  | whole => exact hobject fields rfl
  | item => exact harray _ rfl
  | field => exact hobject _ rfl

theorem normal_array_iff {items : List Json} :
    Normal (.array items) ↔ ∀ item ∈ items, Normal item := by
  constructor
  · intro h item hitem fields hfields
    exact h fields (.item hitem hfields)
  · rintro h fields (_ | ⟨hitem, hfields⟩)
    exact h _ hitem fields hfields

theorem normal_object_iff {fields : List (String × Json)} :
    Normal (.object fields) ↔
      (TypeKnown fields ∧ NameSettled fields) ∧ ∀ field ∈ fields, Normal field.2 := by
  constructor
  · intro h
    refine ⟨h fields .whole, fun field hfield inner hinner => ?_⟩
    exact h inner (.field hfield hinner)
  · rintro ⟨hfields, h⟩ inner (_ | _ | ⟨hfield, hinner⟩)
    · exact hfields
    · exact h _ hfield inner hinner

theorem normal_scan {value scanned : Json} (h : scan value = .ok scanned) : Normal scanned := by
  -- Along the visits: the objects of the outcome come from the folded fields, not from the fields.
  induction value using visited.induct generalizing scanned with
  | case1 items ih =>
    obtain ⟨results, rfl, hresults⟩ := scan_array_eq_ok h
    rw [normal_array_iff]
    intro result hresult
    obtain ⟨item, hitem, hscan⟩ := exists_left_of_forall₂ hresults hresult
    exact ih item hitem hscan
  | case2 fields ih =>
    obtain ⟨hoffence, results, rfl, hresults⟩ := scan_object_eq_ok h
    have hknown := typeKnown_folded (typeKnown_of_offence? hoffence)
    refine normal_object_iff.2 ⟨⟨typeKnown_scanned hresults hknown,
      nameSettled_scanned hresults hknown nameSettled_folded⟩, fun result hresult => ?_⟩
    obtain ⟨field, hfield, hscan⟩ := exists_left_of_forall₂ hresults hresult
    exact ih ⟨field, hfield⟩ hscan.2
  | case3 value harray hobject =>
    rw [scan] at h
    · cases h
      exact fun fields hfields => absurd hfields (object_notWithin harray hobject fields)
    · exact harray
    · exact hobject

theorem scan_of_normal {value : Json} (h : Normal value) : scan value = .ok value := by
  induction value using visited.induct with
  | case1 items ih =>
    rw [normal_array_iff] at h
    exact scan_array_eq_self fun item hitem => ih item hitem (h item hitem)
  | case2 fields ih =>
    obtain ⟨⟨htype, hname⟩, hfields⟩ := normal_object_iff.1 h
    have hfolded := folded_of_nameSettled hname
    refine scan_object_eq_self (offence?_of_normal htype hname) hfolded fun field hfield => ?_
    exact ih ⟨field, hfolded.symm ▸ hfield⟩ (hfields field hfield)
  | case3 value harray hobject =>
    rw [scan]
    · exact harray
    · exact hobject

theorem normal_of_scan {value scanned : Json} (h : scan value = .ok scanned)
    (hnames : ∀ fields, Within (.object fields) value → NameSettled fields) : Normal value := by
  induction value using visited.induct generalizing scanned with
  | case1 items ih =>
    obtain ⟨results, -, hresults⟩ := scan_array_eq_ok h
    refine normal_array_iff.2 fun item hitem => ?_
    obtain ⟨result, -, hscan⟩ := exists_right_of_forall₂ hresults hitem
    exact ih item hitem hscan fun fields hfields => hnames fields (.item hitem hfields)
  | case2 fields ih =>
    obtain ⟨hoffence, results, -, hresults⟩ := scan_object_eq_ok h
    have hname := hnames fields .whole
    rw [folded_of_nameSettled hname] at hresults ih
    refine normal_object_iff.2 ⟨⟨typeKnown_of_offence? hoffence, hname⟩, fun field hfield => ?_⟩
    obtain ⟨result, -, hscan⟩ := exists_right_of_forall₂ hresults hfield
    exact ih ⟨field, hfield⟩ hscan.2 fun inner hinner => hnames inner (.field hfield hinner)
  | case3 value harray hobject =>
    exact fun fields hfields => absurd hfields (object_notWithin harray hobject fields)

end Normal

section Descent

/-- The scan as it goes down a document that it changes on the way: from each object to the values
that it has just been given. It goes down `depth` levels, and nothing comes of it where there are
more. -/
def descend : Nat → Json → ExceptT Error Option Json
  | 0, _ => ExceptT.mk none
  | depth + 1, .array items => Json.array <$> items.mapM (descend depth)
  | depth + 1, .object fields =>
    match offence? fields with
    | some error => throw error
    | none =>
      Json.object <$>
        (folded fields).mapM fun field => (field.1, ·) <$> descend depth field.2
  | _ + 1, value => pure value

theorem run_mapM_of_forall {α β : Type} {f : α → ExceptT Error Option β} {g : α → Except Error β}
    {xs : List α} (h : ∀ x ∈ xs, (f x).run = some (g x)) :
    (xs.mapM f).run = some (xs.mapM g) := by
  induction xs with
  | nil => rfl
  | cons x rest ih =>
    obtain ⟨hfirst, hrest⟩ := List.forall_mem_cons.1 h
    rw [List.mapM_cons, List.mapM_cons, ExceptT.run_bind, hfirst]
    cases g x with
    | error error => rfl
    | ok y =>
      change (rest.mapM f >>= fun ys => pure (y :: ys)).run = _
      rw [ExceptT.run_bind, ih hrest]
      cases rest.mapM g <;> rfl

theorem run_map_of_run {α β : Type} {x : ExceptT Error Option α} {y : Except Error α} (f : α → β)
    (h : x.run = some y) : (f <$> x).run = some (f <$> y) := by
  rw [ExceptT.run_map, h]
  rfl

theorem weight_pos (value : Json) : 0 < weight value := by
  cases value <;> simp [weight]

theorem run_descend {depth : Nat} {value : Json} (h : weight value ≤ depth) :
    (descend depth value).run = some (scan value) := by
  induction depth generalizing value with
  | zero => exact absurd h (Nat.not_le.2 (weight_pos value))
  | succ depth ih =>
    cases value with
    | array items =>
      have hitems : ∀ item ∈ items, (descend depth item).run = some (scan item) :=
        fun item hitem => ih (Nat.le_of_lt_succ ((weight_lt_array hitem).trans_le h))
      rw [descend, run_map_of_run _ (run_mapM_of_forall hitems), scan, scanItems_eq_mapM]
      rfl
    | object fields =>
      have hfields : ∀ field ∈ folded fields, ((field.1, ·) <$> descend depth field.2).run =
          some ((field.1, ·) <$> scan field.2) :=
        fun field hfield => run_map_of_run _
          (ih (Nat.le_of_lt_succ ((weight_lt_object hfield).trans_le h)))
      rw [descend, scan_object]
      cases offence? fields with
      | some error => rfl
      | none =>
        rw [settle_scanFields_eq_mapM]
        exact run_map_of_run _ (run_mapM_of_forall hfields)
    | null | bool _ | number _ | string _ =>
      simp only [descend, scan, ExceptT.run_pure]
      rfl

end Descent

/-- The scan comes to an end in every document. Where it succeeds, every type in the outcome is a
tag and no element has a node beside its name; a second scan changes nothing; and the first one has
changed nothing if no element had a node beside its name before. -/
theorem scan_reaches_normal_form (value : Json) :
    (∃ most, ∀ depth, most ≤ depth → (descend depth value).run = some (scan value)) ∧
      ∀ scanned, scan value = .ok scanned →
        (∀ fields, Within (.object fields) scanned →
          (∀ found, fields.lookup "type" = some found → ∃ kind : Kind, found = .string kind.tag) ∧
          (fields.lookup "type" = some (.string Kind.markup.tag) →
            fields.lookup "expression" = none)) ∧
        scan scanned = .ok scanned ∧
        ((∀ fields, Within (.object fields) value →
            fields.lookup "type" = some (.string Kind.markup.tag) →
            fields.lookup "expression" = none) →
          scanned = value) := by
  refine ⟨⟨weight value, fun depth hdepth => run_descend hdepth⟩, fun scanned h => ?_⟩
  have hnormal := normal_scan h
  refine ⟨hnormal, scan_of_normal hnormal, fun hnames => ?_⟩
  have hunchanged := scan_of_normal (normal_of_scan h hnames)
  exact Except.ok.inj (h.symm.trans hunchanged)

def nestedNames : Json :=
  .object [
    ("expression", .object [
      ("expression", .null), ("name", .string "b"), ("type", .string Kind.markup.tag)]),
    ("name", .object [("type", .bool true)]),
    ("type", .string Kind.markup.tag)]

def nestedNamesScanned : Json :=
  .object [
    ("name", computedName (.object [("name", .string "b"), ("type", .string Kind.markup.tag)])),
    ("type", .string Kind.markup.tag)]

theorem scan_nestedNames :
    scan nestedNames = .ok nestedNamesScanned ∧ Normal nestedNamesScanned ∧
      scan nestedNamesScanned = .ok nestedNamesScanned := by
  have hscan : scan nestedNames = .ok nestedNamesScanned := by rfl
  obtain ⟨hnormal, hagain, -⟩ := (scan_reaches_normal_form nestedNames).2 _ hscan
  exact ⟨hscan, hnormal, hagain⟩

end TemplateCode.Tree
