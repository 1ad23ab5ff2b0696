import TemplateCode.Proofs.Fields
import TemplateCode.Proofs.TreeDocument

/-! What the scan of a document reports. It visits the objects of the document in pre-order, each
with its node under `expression` moved into its name, and the first offence on this way decides the
outcome before anything is decoded. -/

namespace TemplateCode.Tree

def tags : List String := Kind.all.map Kind.tag

def isMarkup (fields : List (String × Json)) : Bool :=
  match fields.lookup "type" with
  | some (.string tag) => tag == Kind.markup.tag
  | _ => false

def offence? (fields : List (String × Json)) : Option Error :=
  match fields.lookup "type" with
  | none => none
  | some (.string tag) =>
    if tag ∉ tags then some (.unknownKind tag)
    else if tag ≠ Kind.markup.tag then none
    else
      match fields.lookup "expression" with
      | none | some .null | some (.object _) => none
      | some found => some (.malformed (.expressionNotNode found))
  | some found => some (.malformed (.typeNotString found))

/-- The fields of an object as they are visited: an element loses its `expression`, and if that is
an object, it becomes the name in place of the old one. -/
def folded (fields : List (String × Json)) : List (String × Json) :=
  if isMarkup fields then
    match fields.lookup "expression" with
    | some (.object node) =>
      Fields.insert "name" (computedName (.object node)) (Fields.erase "expression" fields)
    | _ => Fields.erase "expression" fields
  else fields

theorem isMarkup_iff (fields : List (String × Json)) :
    isMarkup fields = true ↔
      (fields.lookup "type").map Json.shape = some (.string Kind.markup.tag) := by
  rw [isMarkup]
  rcases fields.lookup "type" with _ | (_ | _ | _ | _ | _ | _) <;> simp [Json.shape]

theorem offence?_eq_none_iff (fields : List (String × Json)) :
    offence? fields = none ↔
      (fields.lookup "type").map Json.shape = none ∨
        ∃ tag ∈ tags, (fields.lookup "type").map Json.shape = some (.string tag) ∧
          (tag = Kind.markup.tag →
            (fields.lookup "expression").map Json.shape ∈ [none, some .null, some .map]) := by
  rw [offence?]
  rcases fields.lookup "type" with _ | (_ | _ | _ | tag | _ | _)
  case some.string =>
    by_cases hknown : tag ∈ tags
    · by_cases hmarkup : tag = Kind.markup.tag
      · subst hmarkup
        rcases fields.lookup "expression" with _ | (_ | _ | _ | _ | _ | _) <;>
          simp [Json.shape, hknown]
      · simp [Json.shape, hknown, hmarkup]
    · simp [Json.shape, hknown]
  all_goals simp [Json.shape]

theorem folded_eq_self {fields : List (String × Json)}
    (h : isMarkup fields = true → fields.lookup "expression" = none) : folded fields = fields := by
  rw [folded]
  split
  · next hmarkup =>
    rw [h hmarkup]
    exact Fields.erase_eq_self (h hmarkup)
  · rfl

section Weight

-- An `expression` may come to stand under another key and two levels deeper.
def keyWeight (key : String) : Nat := if key = "expression" then 5 else 1

mutual
def weight : Json → Nat
  | .array items => 1 + itemsWeight items
  | .object fields => 1 + fieldsWeight fields
  | _ => 1

def itemsWeight : List Json → Nat
  | [] => 0
  | item :: rest => weight item + itemsWeight rest

def fieldsWeight : List (String × Json) → Nat
  | [] => 0
  | (key, value) :: rest => keyWeight key + weight value + fieldsWeight rest
end

theorem weight_computedName (node : Json) : weight (computedName node) = 3 + weight node := by
  simp only [computedName, weight, fieldsWeight, itemsWeight, keyWeight, String.reduceEq, reduceIte]
  omega

theorem weight_lt_array {items : List Json} {item : Json} (h : item ∈ items) :
    weight item < weight (.array items) := by
  rw [weight, Nat.add_comm, Nat.lt_succ_iff]
  induction items with
  | nil => exact absurd h List.not_mem_nil
  | cons first rest ih =>
    rw [itemsWeight]
    rcases List.mem_cons.1 h with rfl | hrest
    · exact Nat.le_add_right _ _
    · exact (ih hrest).trans (Nat.le_add_left _ _)

theorem weight_le_fieldsWeight {fields : List (String × Json)} {field : String × Json}
    (h : field ∈ fields) : weight field.2 ≤ fieldsWeight fields := by
  induction fields with
  | nil => exact absurd h List.not_mem_nil
  | cons first rest ih =>
    rw [fieldsWeight]
    rcases List.mem_cons.1 h with rfl | hrest
    · exact (Nat.le_add_left _ _).trans (Nat.le_add_right _ _)
    · exact (ih hrest).trans (Nat.le_add_left _ _)

theorem fieldsWeight_erase_le (key : String) (fields : List (String × Json)) :
    fieldsWeight (Fields.erase key fields) ≤ fieldsWeight fields := by
  induction fields with
  | nil => exact Nat.le_refl _
  | cons field rest ih =>
    rw [Fields.erase, List.filter_cons, fieldsWeight]
    split
    · exact Nat.add_le_add_left ih _
    · exact ih.trans (Nat.le_add_left _ _)

theorem fieldsWeight_append (before after : List (String × Json)) :
    fieldsWeight (before ++ after) = fieldsWeight before + fieldsWeight after := by
  induction before with
  | nil => exact (Nat.zero_add _).symm
  | cons field rest ih =>
    rw [List.cons_append, fieldsWeight, fieldsWeight, ih]
    omega

theorem fieldsWeight_erase {key : String} {value : Json} {fields : List (String × Json)}
    (h : fields.lookup key = some value) :
    keyWeight key + weight value + fieldsWeight (Fields.erase key fields) ≤
      fieldsWeight fields := by
  obtain ⟨before, after, rfl, -⟩ := List.lookup_eq_some_iff.1 h
  have hbefore := fieldsWeight_erase_le key before
  have hafter := fieldsWeight_erase_le key after
  have herase : Fields.erase key (before ++ (key, value) :: after) =
      Fields.erase key before ++ Fields.erase key after := by
    simp [Fields.erase, List.filter_append]
  rw [herase, fieldsWeight_append, fieldsWeight_append, fieldsWeight]
  omega

theorem fieldsWeight_insert_le (key : String) (value : Json) (fields : List (String × Json)) :
    fieldsWeight (Fields.insert key value fields) ≤
      keyWeight key + weight value + fieldsWeight fields := by
  induction fields with
  | nil => exact Nat.le_refl _
  | cons field rest ih =>
    rw [Fields.insert]
    split_ifs
    · exact Nat.le_refl _
    · rw [fieldsWeight, fieldsWeight]
      omega
    · rw [fieldsWeight, fieldsWeight]
      omega

theorem fieldsWeight_folded_le (fields : List (String × Json)) :
    fieldsWeight (folded fields) ≤ fieldsWeight fields := by
  rw [folded]
  split
  · split
    · next node hnode =>
      calc fieldsWeight _
        _ ≤ keyWeight "name" + weight (computedName (.object node)) +
              fieldsWeight (Fields.erase "expression" fields) := fieldsWeight_insert_le _ _ _
        _ ≤ keyWeight "expression" + weight (.object node) +
              fieldsWeight (Fields.erase "expression" fields) := by
            rw [weight_computedName]
            simp only [keyWeight, String.reduceEq, reduceIte]
            omega
        _ ≤ fieldsWeight fields := fieldsWeight_erase hnode
    · exact fieldsWeight_erase_le "expression" fields
  · exact Nat.le_refl _

theorem weight_lt_object {fields : List (String × Json)} {field : String × Json}
    (h : field ∈ folded fields) : weight field.2 < weight (.object fields) := by
  have hfield := weight_le_fieldsWeight h
  have hfolded := fieldsWeight_folded_le fields
  rw [weight]
  omega

end Weight

def visited : Json → List (List (String × Json))
  | .array items => items.flatMap visited
  | .object fields => fields :: (folded fields).attach.flatMap fun field => visited field.1.2
  | _ => []
termination_by value => weight value
decreasing_by
  · exact weight_lt_array ‹_›
  · exact weight_lt_object field.2

theorem visited_object (fields : List (String × Json)) :
    visited (.object fields) = fields :: (folded fields).flatMap fun field => visited field.2 := by
  rw [visited, List.flatMap_subtype (g := fun field => visited field.2) fun _ _ => rfl,
    List.unattach_attach]

def firstOffence? (value : Json) : Option Error := (visited value).findSome? offence?

theorem findSome?_flatMap_visited {α : Type} (f : α → Json) (xs : List α) :
    (xs.flatMap fun x => visited (f x)).findSome? offence? =
      (xs.map fun x => firstOffence? (f x)).findSome? id := by
  rw [← List.head?_filterMap, List.filterMap_flatMap, List.head?_flatMap, List.findSome?_map]
  simp only [List.head?_filterMap]
  rfl

theorem firstOffence?_array (items : List Json) :
    firstOffence? (.array items) = (items.map firstOffence?).findSome? id := by
  rw [firstOffence?, visited]
  exact findSome?_flatMap_visited id items

theorem firstOffence?_object (fields : List (String × Json)) :
    firstOffence? (.object fields) =
      (offence? fields).or
        (((folded fields).map fun field => firstOffence? field.2).findSome? id) := by
  rw [firstOffence?, visited_object, List.findSome?_cons, findSome?_flatMap_visited]
  cases offence? fields <;> rfl

section Scan

theorem ofTag?_eq_none_iff {tag : String} : Kind.ofTag? tag = none ↔ tag ∉ tags := by
  simp [Kind.ofTag?, tags]

theorem tag_injective {kind other : Kind} (h : kind.tag = other.tag) : kind = other := by
  have htag := congrArg Kind.ofTag? h
  rw [ofTag?_tag, ofTag?_tag] at htag
  exact Option.some.inj htag

theorem scan_computedName (node : Json) :
    scan (computedName node) = computedName <$> scan node := by
  simp only [computedName, scan, scanItems, scanFields, kindOf]
  cases scan node <;> rfl

theorem moveExpression_scanFields (fields : List (String × Json)) :
    moveExpression fields (scanFields fields) =
      match fields.lookup "expression" with
      | some (.object node) =>
        .ok (scanFields (Fields.insert "name" (computedName (.object node))
          (Fields.erase "expression" fields)))
      | some .null | none => .ok (scanFields (Fields.erase "expression" fields))
      | some found => .error (.malformed (.expressionNotNode found)) := by
  simp only [moveExpression, scanFields_eq_map, Fields.lookup_map, Fields.erase_map,
    ← Fields.insert_map, scan_computedName]
  rcases fields.lookup "expression" with _ | (_ | _ | _ | _ | _ | _) <;> rfl

theorem scan_object (fields : List (String × Json)) :
    scan (.object fields) =
      match offence? fields with
      | some error => .error error
      | none => Json.object <$> settle (scanFields (folded fields)) := by
  rw [scan, kindOf, offence?, folded, isMarkup]
  rcases fields.lookup "type" with _ | (_ | _ | _ | tag | _ | _)
  case some.string =>
    by_cases hknown : tag ∈ tags
    · obtain ⟨kind, -, rfl⟩ := List.mem_map.1 hknown
      by_cases hmarkup : kind = .markup
      · subst hmarkup
        simp only [ofTag?_tag, hknown, moveExpression_scanFields]
        rcases fields.lookup "expression" with _ | (_ | _ | _ | _ | _ | _) <;> rfl
      · have hne : kind.tag ≠ Kind.markup.tag := mt tag_injective hmarkup
        simp only [ofTag?_tag, hknown, beq_false_of_ne hne]
        cases kind
        case markup => contradiction
        all_goals rfl
    · simp only [ofTag?_eq_none_iff.2 hknown, hknown]
      rfl
  all_goals rfl

theorem scanItems_eq_mapM (items : List Json) : scanItems items = items.mapM scan := by
  induction items with
  | nil => rw [scanItems]; rfl
  | cons item rest ih => rw [scanItems, ih, List.mapM_cons]

theorem scan_array_eq_self {items : List Json} (h : ∀ item ∈ items, scan item = .ok item) :
    scan (.array items) = .ok (.array items) := by
  have hitems : scanItems items = .ok items := by
    induction items with
    | nil => rw [scanItems]
    | cons item rest ih =>
      obtain ⟨hitem, hrest⟩ := List.forall_mem_cons.1 h
      rw [scanItems, hitem, ih hrest]
      rfl
  rw [scan, hitems]
  rfl

theorem scan_object_eq_self {fields : List (String × Json)} (hoffence : offence? fields = none)
    (hfolded : folded fields = fields) (hfields : ∀ field ∈ fields, scan field.2 = .ok field.2) :
    scan (.object fields) = .ok (.object fields) := by
  rw [scan_object, hoffence, hfolded]
  rw [settle_scanFields hfields]
  rfl

theorem failure?_settle (results : List (String × Except Error Json)) :
    failure? (settle results) = (results.map fun result => failure? result.2).findSome? id := by
  induction results with
  | nil => rfl
  | cons result rest ih =>
    rw [settle, List.map_cons, List.findSome?_cons, ← ih]
    cases result.2 with
    | error error => rfl
    | ok value => cases settle rest <;> rfl

theorem failure?_scan (value : Json) : failure? (scan value) = firstOffence? value := by
  -- Along the visits: the fields of an object that count are the folded ones, no parts of it.
  induction value using visited.induct with
  | case1 items ih =>
    rw [scan, firstOffence?_array]
    change failure? (Json.array <$> scanItems items) = _
    rw [failure?_map, scanItems_eq_mapM, failure?_mapM, List.map_congr_left ih]
  | case2 fields ih =>
    rw [scan_object, firstOffence?_object]
    cases offence? fields with
    | some error => rfl
    | none =>
      have hfields : ∀ field ∈ folded fields, failure? (scan field.2) = firstOffence? field.2 :=
        fun field hfield => ih ⟨field, hfield⟩
      rw [failure?_map, failure?_settle, scanFields_eq_map, List.map_map, Option.none_or]
      exact congrArg (List.findSome? id) (List.map_congr_left hfields)
  | case3 value harray hobject =>
    cases value
    case array items => exact absurd rfl (harray items)
    case object fields => exact absurd rfl (hobject fields)
    all_goals simp only [firstOffence?, visited, scan, failure?, List.findSome?_nil]

end Scan

section Order

theorem ascending_folded {fields : List (String × Json)} (h : Fields.Ascending fields) :
    Fields.Ascending (folded fields) := by
  rw [folded]
  split
  · split
    · exact (h.erase "expression").insert "name" _
    · exact h.erase "expression"
  · exact h

theorem ascending_of_mem_folded {fields : List (String × Json)}
    (h : ∀ field ∈ fields, field.2.Ascending) : ∀ field ∈ folded fields, field.2.Ascending := by
  have herase : ∀ field ∈ Fields.erase "expression" fields, field.2.Ascending :=
    fun field hfield => h field (List.mem_of_mem_filter hfield)
  rw [folded]
  split
  · split
    · next node hnode =>
      obtain ⟨before, after, rfl, -⟩ := List.lookup_eq_some_iff.1 hnode
      have hascending := h _ (List.mem_append_right before List.mem_cons_self)
      intro field hfield
      rcases Fields.mem_insert hfield with rfl | hold
      · simpa [computedName, Json.Ascending, Json.AscendingFields, Json.AscendingItems,
          Fields.Ascending] using hascending
      · exact herase field hold
    · exact herase
  · exact h

theorem ascending_of_mem_visited {value : Json} {fields : List (String × Json)}
    (h : value.Ascending) (hfields : fields ∈ visited value) : Fields.Ascending fields := by
  induction value using visited.induct with
  | case1 items ih =>
    rw [Json.Ascending, Json.ascendingItems_iff] at h
    rw [visited] at hfields
    obtain ⟨item, hitem, hmem⟩ := List.mem_flatMap.1 hfields
    exact ih item hitem (h item hitem) hmem
  | case2 first ih =>
    rw [Json.Ascending, Json.ascendingFields_iff] at h
    rw [visited_object] at hfields
    rcases List.mem_cons.1 hfields with rfl | hdeeper
    · exact h.1
    · obtain ⟨field, hfield, hmem⟩ := List.mem_flatMap.1 hdeeper
      exact ih ⟨field, hfield⟩ (ascending_of_mem_folded h.2 field hfield) hmem
  | case3 value harray hobject =>
    rw [visited] at hfields
    · exact absurd hfields List.not_mem_nil
    · exact harray
    · exact hobject

end Order

theorem ofJson_eq (document : Json) :
    Node.ofJson document =
      scan document.canonical >>= fun scanned =>
        (decodeNode false scanned).mapError .malformed := by
  refine congrArg (scan document.canonical >>= ·) (funext fun scanned => ?_)
  cases decodeNode false scanned <;> rfl

theorem ofJson_of_firstOffence?_eq_some {document : Json} {error : Error}
    (h : firstOffence? document.canonical = some error) : Node.ofJson document = .error error := by
  rw [← failure?_scan, failure?_eq_some_iff] at h
  rw [ofJson_eq, h]
  rfl

theorem ofJson_of_firstOffence?_eq_none {document : Json}
    (h : firstOffence? document.canonical = none) :
    ∃ scanned, scan document.canonical = .ok scanned ∧
      Node.ofJson document = (decodeNode false scanned).mapError .malformed := by
  rw [← failure?_scan, failure?_eq_none_iff] at h
  obtain ⟨scanned, hscanned⟩ := h
  refine ⟨scanned, hscanned, ?_⟩
  rw [ofJson_eq, hscanned]
  rfl

/-- The objects are visited in the order of their keys. The first offence on the way is reported,
whatever faults of form stand before or after it; and only a document without one is decoded. -/
theorem ofJson_reports_first_offence (document : Json) :
    (∀ tag, Node.ofJson document = .error (.unknownKind tag) ↔
      firstOffence? document.canonical = some (.unknownKind tag)) ∧
    (∀ error, firstOffence? document.canonical = some error →
      Node.ofJson document = .error error) ∧
    (firstOffence? document.canonical = none →
      ∃ scanned, scan document.canonical = .ok scanned ∧
        Node.ofJson document = (decodeNode false scanned).mapError .malformed) ∧
    ∀ fields ∈ visited document.canonical, Fields.Ascending (folded fields) := by
  refine ⟨fun tag => ⟨fun h => ?_, ofJson_of_firstOffence?_eq_some⟩,
    fun error => ofJson_of_firstOffence?_eq_some, ofJson_of_firstOffence?_eq_none, ?_⟩
  · cases hfirst : firstOffence? document.canonical with
    | some error =>
      have hreport := ofJson_of_firstOffence?_eq_some hfirst
      rw [Except.error.inj (hreport.symm.trans h)]
    | none =>
      -- Decoding has faults of form only.
      obtain ⟨scanned, -, hdecoded⟩ := ofJson_of_firstOffence?_eq_none hfirst
      rw [hdecoded] at h
      cases hnode : decodeNode false scanned with
      | ok node => exact absurd (hnode ▸ h) nofun
      | error fault => exact absurd (hnode ▸ h) nofun
  · intro fields hfields
    have hcanonical := Json.ascending_canonical document
    exact ascending_folded (ascending_of_mem_visited hcanonical hfields)

def misspelled : Json :=
  .object [
    ("type", .string Kind.markup.tag),
    ("name", .object [("type", .null)]),
    ("expression", .object [("type", .string "VashNope"), ("values", .null)]),
    ("attributes", .bool true),
    ("values", .array [.object [("type", .bool false)]])]

theorem ofJson_misspelled :
    firstOffence? misspelled.canonical = some (.unknownKind "VashNope") ∧
      Node.ofJson misspelled = .error (.unknownKind "VashNope") := by
  have hfirst : firstOffence? misspelled.canonical = some (.unknownKind "VashNope") := by
    rw [← failure?_scan]
    rfl
  exact ⟨hfirst, (ofJson_reports_first_offence misspelled).1 _ |>.2 hfirst⟩

end TemplateCode.Tree
