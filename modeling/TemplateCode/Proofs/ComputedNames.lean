import Mathlib.Data.List.Forall2
import TemplateCode.Proofs.Visits

/-! The two ways to write a computed tag name. Whichever elements of a document are changed from the
older way to the newer one, at whatever depth, the scan makes the same document of it, and so it is
decoded to the same tree or fails as before. -/

namespace TemplateCode.Tree

/-- The fields of an element whose `expression` is a node, with this node written as its name,
whatever the name was. Other fields stay as they are. -/
def renamed (fields : List (String × Json)) : List (String × Json) :=
  match Fields.value? "type" fields, Fields.value? "expression" fields with
  | some (.string tag), some (.object node) =>
    if tag = Kind.markup.tag then
      Fields.erase "name" (Fields.erase "expression" fields) ++
        [("name", computedName (.object node))]
    else fields
  | _, _ => fields

mutual
/-- A document in which the elements at the chosen places are renamed. A place is the way to it from
the root, by positions in arrays and objects, the last step first. -/
def respell (chosen : List Nat → Bool) (place : List Nat) : Json → Json
  | .array items => .array (respellItems chosen place 0 items)
  | .object fields =>
    if chosen place then .object (renamed (respellFields chosen place 0 fields))
    else .object (respellFields chosen place 0 fields)
  | value => value

def respellItems (chosen : List Nat → Bool) (place : List Nat) (index : Nat) :
    List Json → List Json
  | [] => []
  | item :: rest =>
    respell chosen (index :: place) item :: respellItems chosen place (index + 1) rest

def respellFields (chosen : List Nat → Bool) (place : List Nat) (index : Nat) :
    List (String × Json) → List (String × Json)
  | [] => []
  | (key, value) :: rest =>
    (key, respell chosen (index :: place) value) :: respellFields chosen place (index + 1) rest
end

section Alike

variable {α β : Type} {R : α → β → Prop} {fs : List (String × α)} {gs : List (String × β)}

def FieldsAlike (R : α → β → Prop) : List (String × α) → List (String × β) → Prop :=
  List.Forall₂ fun f g => f.1 = g.1 ∧ R f.2 g.2

theorem FieldsAlike.lookup (h : FieldsAlike R fs gs) (key : String) :
    (fs.lookup key = none ∧ gs.lookup key = none) ∨
      ∃ a b, fs.lookup key = some a ∧ gs.lookup key = some b ∧ R a b := by
  induction h with
  | nil => exact .inl ⟨rfl, rfl⟩
  | @cons f g fs gs hfield _ ih =>
    rw [List.lookup_cons, List.lookup_cons, hfield.1]
    split
    · exact .inr ⟨f.2, g.2, rfl, rfl, hfield.2⟩
    · exact ih

theorem FieldsAlike.insert (h : FieldsAlike R fs gs) (key : String) {a : α} {b : β}
    (hab : R a b) : FieldsAlike R (Fields.insert key a fs) (Fields.insert key b gs) := by
  induction h with
  | nil => exact .cons ⟨rfl, hab⟩ .nil
  | @cons f g fs gs hfield hrest ih =>
    obtain ⟨hkey, hvalue⟩ := hfield
    rw [Fields.insert, Fields.insert, hkey]
    split_ifs
    · exact .cons ⟨rfl, hab⟩ (.cons ⟨rfl, hvalue⟩ hrest)
    · exact .cons ⟨rfl, hab⟩ hrest
    · exact .cons ⟨rfl, hvalue⟩ ih

theorem FieldsAlike.erase (h : FieldsAlike R fs gs) (key : String) :
    FieldsAlike R (Fields.erase key fs) (Fields.erase key gs) := by
  induction h with
  | nil => exact .nil
  | @cons f g fs gs hfield _ ih =>
    rw [Fields.erase, Fields.erase, List.filter_cons, List.filter_cons, hfield.1]
    split
    · exact .cons hfield ih
    · exact ih

theorem FieldsAlike.ordered (h : FieldsAlike R fs gs) :
    FieldsAlike R (Fields.ordered fs) (Fields.ordered gs) := by
  have hfold : ∀ done done', FieldsAlike R done done' →
      FieldsAlike R (fs.foldl (fun done field => Fields.insert field.1 field.2 done) done)
        (gs.foldl (fun done field => Fields.insert field.1 field.2 done) done') := by
    induction h with
    | nil => exact fun _ _ hdone => hdone
    | @cons f g fs gs hfield _ ih =>
      intro done done' hdone
      rw [List.foldl_cons, List.foldl_cons, hfield.1]
      exact ih _ _ (hdone.insert g.1 hfield.2)
  exact hfold [] [] .nil

end Alike

def SameScan (a b : Json) : Prop := a.shape = b.shape ∧ ∀ w, scan a = .ok w ↔ scan b = .ok w

theorem SameScan.refl (a : Json) : SameScan a a := ⟨rfl, fun _ => Iff.rfl⟩

theorem SameScan.computedName {a b : Json} (h : SameScan a b) :
    SameScan (computedName a) (computedName b) := by
  refine ⟨rfl, fun w => ?_⟩
  simp only [scan_computedName, map_eq_ok_iff, h.2]

section Object

variable {fs gs : List (String × Json)}

theorem FieldsAlike.shape (h : FieldsAlike SameScan fs gs) (key : String) :
    (fs.lookup key).map Json.shape = (gs.lookup key).map Json.shape := by
  rcases h.lookup key with ⟨hf, hg⟩ | ⟨a, b, hf, hg, hab⟩
  · rw [hf, hg]
  · rw [hf, hg]
    exact congrArg some hab.1

theorem FieldsAlike.folded (h : FieldsAlike SameScan fs gs) :
    FieldsAlike SameScan (folded fs) (folded gs) := by
  have herase := h.erase "expression"
  have hmarkup : isMarkup fs = isMarkup gs := by
    rw [Bool.eq_iff_iff, isMarkup_iff, isMarkup_iff, h.shape]
  rw [Tree.folded, Tree.folded, hmarkup]
  split
  · rcases h.lookup "expression" with ⟨hf, hg⟩ | ⟨a, b, hf, hg, hab⟩
    · rw [hf, hg]
      exact herase
    · have hshape := hab.1
      rw [hf, hg]
      cases a <;> cases b
      case object.object => exact herase.insert "name" hab.computedName
      all_goals first | exact herase | simp [Json.shape] at hshape
  · exact h

theorem offence?_congr (h : FieldsAlike SameScan fs gs) :
    offence? fs = none ↔ offence? gs = none := by
  rw [offence?_eq_none_iff, offence?_eq_none_iff, h.shape, h.shape]

theorem settle_congr (h : FieldsAlike SameScan fs gs) (ws : List (String × Json)) :
    settle (scanFields fs) = .ok ws ↔ settle (scanFields gs) = .ok ws := by
  induction h generalizing ws with
  | nil => rfl
  | @cons f g fs gs hfield _ ih =>
    simp only [scanFields, settle, bind_eq_ok_iff, hfield.1, hfield.2.2, ih]

theorem sameScan_object (h : FieldsAlike SameScan fs gs) :
    SameScan (.object fs) (.object gs) := by
  refine ⟨rfl, fun w => ?_⟩
  have hsettled := settle_congr h.folded
  have hoffence := offence?_congr h
  rw [scan_object, scan_object]
  cases hf : offence? fs with
  | none =>
    rw [hoffence.1 hf]
    simp only [map_eq_ok_iff, hsettled]
  | some error =>
    cases hg : offence? gs with
    | none =>
      rw [hoffence.2 hg] at hf
      cases hf
    | some error' => simp only [reduceCtorEq]

theorem sameScan_array {items others : List Json} (h : List.Forall₂ SameScan items others) :
    SameScan (.array items) (.array others) := by
  have hitems : ∀ ws, scanItems items = .ok ws ↔ scanItems others = .ok ws := by
    induction h with
    | nil => exact fun _ => Iff.rfl
    | cons hitem _ ih =>
      intro ws
      simp only [scanItems, bind_eq_ok_iff, hitem.2, ih]
  refine ⟨rfl, fun w => ?_⟩
  simp only [scan, bind_eq_ok_iff, hitems]

end Object

section Renamed

variable {fields : List (String × Json)}

theorem canonical_computedName (node : Json) :
    (computedName node).canonical = computedName node.canonical := by
  simp only [computedName, Json.canonical, Json.canonicalFields, Json.canonicalItems,
    Fields.ordered, List.foldl_cons, List.foldl_nil, Fields.insert]

theorem isMarkup_canonical (h : Fields.value? "type" fields = some (.string Kind.markup.tag)) :
    isMarkup (Fields.ordered (Json.canonicalFields fields)) = true := by
  rw [isMarkup_iff, Json.lookup_canonical, h]
  simp [Json.canonical, Json.shape]

theorem lookup_expression_canonical {node : List (String × Json)}
    (h : Fields.value? "expression" fields = some (.object node)) :
    (Fields.ordered (Json.canonicalFields fields)).lookup "expression" =
      some (.object (Fields.ordered (Json.canonicalFields node))) := by
  rw [Json.lookup_canonical, h, Option.map_some, Json.canonical]

theorem canonical_renamed {node : List (String × Json)}
    (htype : Fields.value? "type" fields = some (.string Kind.markup.tag))
    (hnode : Fields.value? "expression" fields = some (.object node)) :
    Fields.ordered (Json.canonicalFields (renamed fields)) =
      folded (Fields.ordered (Json.canonicalFields fields)) := by
  have hlookup := lookup_expression_canonical hnode
  have hfolded : folded (Fields.ordered (Json.canonicalFields fields)) =
      Fields.insert "name" (computedName (Json.object node).canonical)
        (Fields.erase "expression" (Fields.ordered (Json.canonicalFields fields))) := by
    rw [folded, isMarkup_canonical htype, hlookup, Json.canonical]
    rfl
  have hascending := Fields.ascending_ordered (Json.canonicalFields fields)
  have hrenamed : renamed fields =
      Fields.erase "name" (Fields.erase "expression" fields) ++
        [("name", computedName (.object node))] := by
    simp only [renamed, htype, hnode, if_true]
  refine (Fields.ascending_ordered _).ext (ascending_folded hascending) fun key => ?_
  rw [hfolded, Fields.lookup_insert, Fields.lookup_erase, Json.lookup_canonical,
    Json.lookup_canonical, hrenamed, Fields.value?_concat, Fields.value?_erase,
    Fields.value?_erase]
  split_ifs
  · rw [Option.map_some, canonical_computedName]
  · rfl
  · rfl

theorem scan_folded {node : List (String × Json)} (hmarkup : isMarkup fields = true)
    (hnode : fields.lookup "expression" = some (.object node)) :
    scan (.object (folded fields)) = scan (.object fields) := by
  have hfolded : folded fields =
      Fields.insert "name" (computedName (.object node)) (Fields.erase "expression" fields) := by
    rw [folded, hmarkup, hnode]
    rfl
  have htype : (folded fields).lookup "type" = fields.lookup "type" := by
    rw [hfolded, Fields.lookup_insert, Fields.lookup_erase]
    rfl
  have hexpression : (folded fields).lookup "expression" = none := by
    rw [hfolded, Fields.lookup_insert, Fields.lookup_erase]
    rfl
  have hknown := (isMarkup_iff fields).1 hmarkup
  have hharmless : offence? fields = none := by
    rw [offence?_eq_none_iff, hnode]
    exact .inr ⟨Kind.markup.tag, by decide, hknown, fun _ => by simp [Json.shape]⟩
  have hharmless' : offence? (folded fields) = none := by
    rw [offence?_eq_none_iff, htype, hexpression]
    exact .inr ⟨Kind.markup.tag, by decide, hknown, fun _ => by simp⟩
  have htwice : folded (folded fields) = folded fields := folded_eq_self fun _ => hexpression
  rw [scan_object, scan_object, hharmless, hharmless', htwice]

theorem renamed_cases (fields : List (String × Json)) :
    renamed fields = fields ∨
      ∃ node, Fields.value? "type" fields = some (.string Kind.markup.tag) ∧
        Fields.value? "expression" fields = some (.object node) := by
  unfold renamed
  split
  next tag node htype hnode =>
    split_ifs with htag
    · exact .inr ⟨node, htag ▸ htype, hnode⟩
    · exact .inl rfl
  next => exact .inl rfl

theorem scan_renamed (fields : List (String × Json)) :
    scan (Json.object (renamed fields)).canonical = scan (Json.object fields).canonical := by
  rcases renamed_cases fields with hsame | ⟨node, htype, hnode⟩
  · rw [hsame]
  · have hlookup := lookup_expression_canonical hnode
    rw [Json.canonical, Json.canonical, canonical_renamed htype hnode]
    exact scan_folded (isMarkup_canonical htype) hlookup

end Renamed

mutual
theorem sameScan_respell (chosen : List Nat → Bool) (place : List Nat) (value : Json) :
    SameScan (respell chosen place value).canonical value.canonical := by
  match value with
  | .array items =>
    rw [respell, Json.canonical, Json.canonical]
    exact sameScan_array (sameScan_respellItems chosen place 0 items)
  | .object fields =>
    have hfields := (sameScan_respellFields chosen place 0 fields).ordered
    have hobject := sameScan_object hfields
    rw [respell]
    split
    · refine ⟨by simp only [Json.canonical, Json.shape], fun w => ?_⟩
      rw [scan_renamed, Json.canonical, Json.canonical]
      exact hobject.2 w
    · rw [Json.canonical, Json.canonical]
      exact hobject
  | .null | .bool _ | .number _ | .string _ =>
    rw [respell]
    · exact SameScan.refl _
    all_goals nofun

theorem sameScan_respellItems (chosen : List Nat → Bool) (place : List Nat) (index : Nat)
    (items : List Json) :
    List.Forall₂ SameScan (Json.canonicalItems (respellItems chosen place index items))
      (Json.canonicalItems items) := by
  match items with
  | [] =>
    rw [respellItems, Json.canonicalItems]
    exact .nil
  | item :: rest =>
    rw [respellItems, Json.canonicalItems, Json.canonicalItems]
    exact .cons (sameScan_respell chosen _ item) (sameScan_respellItems chosen place _ rest)

theorem sameScan_respellFields (chosen : List Nat → Bool) (place : List Nat) (index : Nat)
    (fields : List (String × Json)) :
    FieldsAlike SameScan (Json.canonicalFields (respellFields chosen place index fields))
      (Json.canonicalFields fields) := by
  match fields with
  | [] =>
    rw [respellFields, Json.canonicalFields]
    exact .nil
  | (key, value) :: rest =>
    rw [respellFields, Json.canonicalFields, Json.canonicalFields]
    exact .cons ⟨rfl, sameScan_respell chosen _ value⟩ (sameScan_respellFields chosen place _ rest)
end

/-- Both ways to write a computed name describe the same trees: whichever elements of a document are
renamed, the document is decoded to the same tree as before, or fails as it did before. -/
theorem ofJson_respell (document : Json) (chosen : List Nat → Bool) :
    (∃ tree, Node.ofJson document = .ok tree ∧
        Node.ofJson (respell chosen [] document) = .ok tree) ∨
      (∃ error error', Node.ofJson document = .error error ∧
        Node.ofJson (respell chosen [] document) = .error error') := by
  have hsame : ∀ tree, Node.ofJson (respell chosen [] document) = .ok tree ↔
      Node.ofJson document = .ok tree := by
    intro tree
    simp only [ofJson_eq, bind_eq_ok_iff, (sameScan_respell chosen [] document).2]
  cases hdocument : Node.ofJson document with
  | ok tree => exact .inl ⟨tree, rfl, (hsame tree).2 hdocument⟩
  | error error =>
    cases hother : Node.ofJson (respell chosen [] document) with
    | ok tree =>
      rw [(hsame tree).1 hother] at hdocument
      cases hdocument
    | error error' => exact .inr ⟨error, error', rfl, rfl⟩

example : respell (fun _ => true) [] (.object [("type", .string "VashMarkup"),
    ("expression", .object [("type", .string "VashText"), ("value", .string "p")])]) =
    .object [("type", .string "VashMarkup"), ("name",
      computedName (.object [("type", .string "VashText"), ("value", .string "p")]))] := by
  rfl

end TemplateCode.Tree
