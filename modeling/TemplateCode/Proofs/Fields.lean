import Mathlib.Data.List.Induction
import Mathlib.Data.String.Basic
import TemplateCode.Json.Basic

/-! The fields of objects. Inserting and erasing keep ascending keys ascending and go along with a
map of the values; ascending fields are known by the value of each key, and ordering keeps these
values. In a canonical document the keys of every object ascend. -/

namespace TemplateCode

namespace Fields

variable {α β : Type} {fields : List (String × α)}

def Ascending (fields : List (String × α)) : Prop := fields.Pairwise fun a b => a.1 < b.1

theorem mem_insert {key : String} {value : α} {field : String × α}
    (h : field ∈ insert key value fields) : field = (key, value) ∨ field ∈ fields := by
  induction fields with
  | nil => exact .inl (List.mem_singleton.1 h)
  | cons first rest ih =>
    rw [insert] at h
    split_ifs at h with hlt heq
    · exact List.mem_cons.1 h
    · rcases List.mem_cons.1 h with hfield | hrest
      · exact .inl hfield
      · exact .inr (List.mem_cons_of_mem first hrest)
    · rcases List.mem_cons.1 h with hfield | hrest
      · exact .inr (hfield ▸ List.mem_cons_self)
      · exact (ih hrest).imp_right (List.mem_cons_of_mem first)

theorem Ascending.insert (h : Ascending fields) (key : String) (value : α) :
    Ascending (insert key value fields) := by
  induction fields with
  | nil => exact List.pairwise_singleton _ _
  | cons first rest ih =>
    obtain ⟨hfirst, hrest⟩ := List.pairwise_cons.1 h
    rw [Fields.insert]
    split_ifs with hlt heq
    · refine List.pairwise_cons.2 ⟨fun field hfield => ?_, h⟩
      rcases List.mem_cons.1 hfield with rfl | hmem
      · exact hlt
      · exact hlt.trans (hfirst field hmem)
    · exact List.pairwise_cons.2 ⟨fun field hfield => heq ▸ hfirst field hfield, hrest⟩
    · refine List.pairwise_cons.2 ⟨fun field hfield => ?_, ih hrest⟩
      rcases mem_insert hfield with rfl | hmem
      · exact lt_of_le_of_ne (not_lt.1 hlt) (Ne.symm heq)
      · exact hfirst field hmem

theorem Ascending.erase (h : Ascending fields) (key : String) : Ascending (erase key fields) :=
  h.filter _

theorem ascending_ordered (fields : List (String × α)) : Ascending (ordered fields) := by
  have hfold : ∀ done : List (String × α), Ascending done →
      Ascending (fields.foldl (fun done field => insert field.1 field.2 done) done) := by
    induction fields with
    | nil => exact fun done h => h
    | cons field rest ih => exact fun done h => ih _ (h.insert field.1 field.2)
  exact hfold [] .nil

theorem insert_map (f : α → β) (key : String) (value : α) (fields : List (String × α)) :
    insert key (f value) (fields.map fun field => (field.1, f field.2)) =
      (insert key value fields).map fun field => (field.1, f field.2) := by
  induction fields with
  | nil => rfl
  | cons first rest ih =>
    rw [List.map_cons, insert, insert, ih]
    split_ifs <;> rfl

theorem erase_map (f : α → β) (key : String) (fields : List (String × α)) :
    erase key (fields.map fun field => (field.1, f field.2)) =
      (erase key fields).map fun field => (field.1, f field.2) :=
  List.filter_map

theorem lookup_map (f : α → β) (key : String) (fields : List (String × α)) :
    (fields.map fun field => (field.1, f field.2)).lookup key = (fields.lookup key).map f := by
  induction fields with
  | nil => rfl
  | cons first rest ih =>
    rw [List.map_cons, List.lookup_cons, List.lookup_cons, ih]
    split <;> rfl

/-- The value of a key. Of a repeated key it is the last one. -/
def value? (key : String) (fields : List (String × α)) : Option α := fields.reverse.lookup key

theorem lookup_cons (key other : String) (value : α) (fields : List (String × α)) :
    ((key, value) :: fields).lookup other =
      if other = key then some value else fields.lookup other := by
  rw [List.lookup_cons]
  by_cases h : other = key
  · rw [h, beq_self_eq_true, if_pos rfl]
  · rw [beq_false_of_ne h, if_neg h]

theorem lookup_insert (key other : String) (value : α) (fields : List (String × α)) :
    (insert key value fields).lookup other =
      if other = key then some value else fields.lookup other := by
  induction fields with
  | nil => exact lookup_cons key other value []
  | cons first rest ih =>
    obtain ⟨k, v⟩ := first
    rw [insert]
    by_cases hlt : key < k
    · rw [if_pos hlt, lookup_cons]
    · by_cases heq : key = k
      · rw [if_neg hlt, if_pos heq, lookup_cons, lookup_cons, heq]
        split_ifs <;> rfl
      · rw [if_neg hlt, if_neg heq, lookup_cons, lookup_cons, ih]
        split_ifs with hk hkey
        · exact absurd (hkey.symm.trans hk) heq
        · rfl
        · rfl
        · rfl

theorem lookup_erase (key other : String) (fields : List (String × α)) :
    (erase key fields).lookup other = if other = key then none else fields.lookup other := by
  induction fields with
  | nil => exact (ite_self _).symm
  | cons first rest ih =>
    obtain ⟨k, v⟩ := first
    rw [erase, List.filter_cons, lookup_cons]
    change (if (k != key) = true then (k, v) :: erase key rest else erase key rest).lookup other = _
    by_cases hk : k = key
    · rw [if_neg (by simpa using hk), ih, hk]
      split_ifs <;> rfl
    · rw [if_pos (by simpa using hk), lookup_cons, ih]
      split_ifs with hother hkey
      · exact absurd (hother.symm.trans hkey) hk
      · rfl
      · rfl
      · rfl

theorem erase_eq_self {key : String} (h : fields.lookup key = none) : erase key fields = fields := by
  rw [erase, List.filter_eq_self]
  intro field hfield
  exact bne_comm.trans (List.lookup_eq_none_iff.1 h field hfield)

theorem lookup_ordered (key : String) (fields : List (String × α)) :
    (ordered fields).lookup key = value? key fields := by
  induction fields using List.reverseRecOn with
  | nil => rfl
  | append_singleton fields field ih =>
    have hordered : ordered (fields ++ [field]) = insert field.1 field.2 (ordered fields) := by
      rw [ordered, ordered, List.foldl_append]
      rfl
    rw [hordered, lookup_insert, ih, value?, value?, List.reverse_append, List.reverse_singleton,
      List.singleton_append, lookup_cons]

theorem lookup_eq_none_of_lt {key : String} (h : ∀ field ∈ fields, key < field.1) :
    fields.lookup key = none := by
  rw [List.lookup_eq_none_iff]
  intro field hfield
  exact bne_iff_ne.2 (h field hfield).ne

theorem Ascending.lookup_eq_none {key first : String} {value : α}
    (h : Ascending ((first, value) :: fields)) (hlt : key < first) :
    ((first, value) :: fields).lookup key = none := by
  apply lookup_eq_none_of_lt
  rw [List.forall_mem_cons]
  exact ⟨hlt, fun field hfield => hlt.trans ((List.pairwise_cons.1 h).1 field hfield)⟩

theorem Ascending.lookup_of_mem {field : String × α} (h : Ascending fields) (hfield : field ∈ fields) :
    fields.lookup field.1 = some field.2 := by
  induction fields with
  | nil => exact absurd hfield List.not_mem_nil
  | cons first rest ih =>
    obtain ⟨hfirst, hrest⟩ := List.pairwise_cons.1 h
    rcases List.mem_cons.1 hfield with rfl | hmem
    · exact List.lookup_cons_self
    · have hne : field.1 ≠ first.1 := (hfirst field hmem).ne'
      rw [lookup_cons, if_neg hne]
      exact ih hrest hmem

theorem Ascending.ext {others : List (String × α)} (h : Ascending fields)
    (hothers : Ascending others) (hlookup : ∀ key, fields.lookup key = others.lookup key) :
    fields = others := by
  induction fields generalizing others with
  | nil =>
    cases others with
    | nil => rfl
    | cons first rest =>
      have hfirst := hlookup first.1
      rw [List.lookup_nil, List.lookup_cons_self] at hfirst
      cases hfirst
  | cons first rest ih =>
    cases others with
    | nil =>
      have hfirst := hlookup first.1
      rw [List.lookup_nil, List.lookup_cons_self] at hfirst
      cases hfirst
    | cons first' rest' =>
      obtain ⟨key, value⟩ := first
      obtain ⟨key', value'⟩ := first'
      obtain ⟨hfirst, hrest⟩ := List.pairwise_cons.1 h
      obtain ⟨hfirst', hrest'⟩ := List.pairwise_cons.1 hothers
      -- A key smaller than the first one of the other list would have no value there.
      have hkey : key = key' := by
        rcases lt_trichotomy key key' with hlt | heq | hlt
        · have hnone := hothers.lookup_eq_none hlt
          rw [← hlookup, List.lookup_cons_self] at hnone
          cases hnone
        · exact heq
        · have hnone := h.lookup_eq_none hlt
          rw [hlookup, List.lookup_cons_self] at hnone
          cases hnone
      subst hkey
      have hvalue : value = value' := by
        have hself := hlookup key
        rw [List.lookup_cons_self, List.lookup_cons_self] at hself
        exact Option.some.inj hself
      have htail : rest = rest' := by
        refine ih hrest hrest' fun other => ?_
        have hother := hlookup other
        rw [lookup_cons, lookup_cons] at hother
        split_ifs at hother with heq
        · rw [heq, lookup_eq_none_of_lt hfirst, lookup_eq_none_of_lt hfirst']
        · exact hother
      rw [hvalue, htail]

theorem mem_of_value? {key : String} {value : α} (h : value? key fields = some value) :
    (key, value) ∈ fields := by
  obtain ⟨before, after, hfields, -⟩ := List.lookup_eq_some_iff.1 h
  rw [← List.mem_reverse, hfields]
  exact List.mem_append_right _ List.mem_cons_self

theorem value?_map (f : α → β) (key : String) (fields : List (String × α)) :
    value? key (fields.map fun field => (field.1, f field.2)) = (value? key fields).map f := by
  rw [value?, ← List.map_reverse, lookup_map]
  rfl

theorem value?_erase (key other : String) (fields : List (String × α)) :
    value? other (erase key fields) = if other = key then none else value? other fields := by
  have hreverse : (erase key fields).reverse = erase key fields.reverse :=
    List.filter_reverse.symm
  rw [value?, hreverse, lookup_erase]
  rfl

theorem value?_concat (key other : String) (value : α) (fields : List (String × α)) :
    value? other (fields ++ [(key, value)]) =
      if other = key then some value else value? other fields := by
  rw [value?, List.reverse_append, List.reverse_singleton, List.singleton_append, lookup_cons]
  rfl

end Fields

namespace Json

mutual
def Ascending : Json → Prop
  | .array items => AscendingItems items
  | .object fields => Fields.Ascending fields ∧ AscendingFields fields
  | _ => True

def AscendingItems : List Json → Prop
  | [] => True
  | item :: rest => item.Ascending ∧ AscendingItems rest

def AscendingFields : List (String × Json) → Prop
  | [] => True
  | (_, value) :: rest => value.Ascending ∧ AscendingFields rest
end

theorem ascendingItems_iff (items : List Json) :
    AscendingItems items ↔ ∀ item ∈ items, item.Ascending := by
  induction items with
  | nil => simp [AscendingItems]
  | cons item rest ih => rw [AscendingItems, ih, List.forall_mem_cons]

theorem ascendingFields_iff (fields : List (String × Json)) :
    AscendingFields fields ↔ ∀ field ∈ fields, field.2.Ascending := by
  induction fields with
  | nil => simp [AscendingFields]
  | cons field rest ih => rw [AscendingFields, ih, List.forall_mem_cons]

theorem mem_ordered {fields : List (String × Json)} {field : String × Json}
    (h : field ∈ Fields.ordered fields) : field ∈ fields := by
  have hfold : ∀ done : List (String × Json),
      field ∈ fields.foldl (fun done field => Fields.insert field.1 field.2 done) done →
        field ∈ done ∨ field ∈ fields := by
    clear h
    induction fields with
    | nil => exact fun done h => .inl h
    | cons first rest ih =>
      intro done h
      rcases ih _ h with hdone | hrest
      · rcases Fields.mem_insert hdone with rfl | hold
        · exact .inr List.mem_cons_self
        · exact .inl hold
      · exact .inr (List.mem_cons_of_mem first hrest)
  exact (hfold [] h).resolve_left List.not_mem_nil

theorem canonicalFields_eq_map (fields : List (String × Json)) :
    canonicalFields fields = fields.map fun field => (field.1, field.2.canonical) := by
  induction fields with
  | nil => rw [canonicalFields, List.map_nil]
  | cons field rest ih => rw [canonicalFields, ih, List.map_cons]

theorem lookup_canonical (key : String) (fields : List (String × Json)) :
    (Fields.ordered (canonicalFields fields)).lookup key =
      (Fields.value? key fields).map canonical := by
  rw [Fields.lookup_ordered, canonicalFields_eq_map, Fields.value?_map]

mutual
theorem ascending_canonical (document : Json) : document.canonical.Ascending := by
  match document with
  | .array items =>
    rw [canonical, Ascending]
    exact ascendingItems_canonical items
  | .object fields =>
    have hfields := ascendingFields_canonical fields
    rw [canonical, Ascending, ascendingFields_iff]
    exact ⟨Fields.ascending_ordered _, fun field h => hfields field (mem_ordered h)⟩
  | .null | .bool _ | .number _ | .string _ => simp only [canonical, Ascending]

theorem ascendingItems_canonical (items : List Json) : AscendingItems (canonicalItems items) := by
  match items with
  | [] => simp only [canonicalItems, AscendingItems]
  | item :: rest =>
    rw [canonicalItems, AscendingItems]
    exact ⟨ascending_canonical item, ascendingItems_canonical rest⟩

theorem ascendingFields_canonical (fields : List (String × Json)) :
    ∀ field ∈ canonicalFields fields, field.2.Ascending := by
  match fields with
  | [] =>
    rw [canonicalFields]
    exact List.forall_mem_nil _
  | (key, value) :: rest =>
    rw [canonicalFields, List.forall_mem_cons]
    exact ⟨ascending_canonical value, ascendingFields_canonical rest⟩
end

end Json

end TemplateCode
