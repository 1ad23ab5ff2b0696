import TemplateCode.Proofs.Nesting
import TemplateCode.Proofs.TreeDocument

/-! A tree written as a text and read again. Whatever its texts hold, the tree comes back, unless
the text opens more brackets at once than a reader follows. -/

namespace TemplateCode.Tree

mutual
theorem numberFree_toJson (node : Node) : node.toJson.NumberFree := by
  match node with
  | .program body =>
    have hbody := numberFree_allToJson body
    simp [Node.toJson, tagged, Json.NumberFree, Json.FieldsNumberFree, hbody]
  | .explicitExpression values | .expression values | .indexExpression values =>
    have hvalues := numberFree_allToJson values
    simp [Node.toJson, tagged, Json.NumberFree, Json.FieldsNumberFree, hvalues]
  | .markup name attributes values isVoid voidClosed =>
    have hname := numberFree_tagName name
    have hattributes := numberFree_allToJson attributes
    have hvalues := numberFree_allToJson values
    simp [Node.toJson, tagged, Json.NumberFree, Json.FieldsNumberFree, hname, hattributes, hvalues]
  | .markupAttribute left right quote =>
    have hleft := numberFree_allToJson left
    have hright := numberFree_allToJson right
    have hquote : (quoteJson quote).NumberFree := by
      cases quote <;> simp [quoteJson, Json.NumberFree]
    simp [Node.toJson, tagged, Json.NumberFree, Json.FieldsNumberFree, hleft, hright, hquote]
  | .block head values tail =>
    have hhead := numberFree_allToJson head
    have hvalues := numberFree_allToJson values
    have htail := numberFree_allToJson tail
    simp [Node.toJson, tagged, Json.NumberFree, Json.FieldsNumberFree, hhead, hvalues, htail]
  | .text value => simp [Node.toJson, tagged, Json.NumberFree, Json.FieldsNumberFree]

theorem numberFree_tagName (name : TagName) : name.toJson.NumberFree := by
  match name with
  | .literal name => simp [TagName.toJson, Json.NumberFree]
  | .dynamic values =>
    have hvalues := numberFree_allToJson values
    simp [TagName.toJson, Json.NumberFree, Json.FieldsNumberFree, hvalues]

theorem numberFree_allToJson (nodes : List Node) : Json.AllNumberFree (Node.allToJson nodes) := by
  match nodes with
  | [] => simp [Node.allToJson, Json.AllNumberFree]
  | node :: rest =>
    have hnode := numberFree_toJson node
    have hrest := numberFree_allToJson rest
    simp [Node.allToJson, Json.AllNumberFree, hnode, hrest]
end

theorem mostOpen_toText (tree : Node) : Json.mostOpen tree.toText = tree.toJson.depth :=
  Json.mostOpen_compact (numberFree_toJson tree)

theorem ofText?_toText (tree : Node) :
    Json.ofText? tree.toText =
      if Json.mostOpen tree.toText ≤ 127 then some tree.toJson else none := by
  rw [mostOpen_toText, Json.ofText?, Json.read?, Node.toText,
    Json.tokens_compact (numberFree_toJson tree)]
  exact Json.ofTokens?_spelling Json.nestingLimit tree.toJson

/-- A tree whose quotes can be written is read back from its text, unless more than 127 brackets are
open at once in the text; then the text is malformed. -/
theorem ofText_toText {tree : Node} (h : tree.WellQuoted) :
    (Json.mostOpen tree.toText ≤ 127 → Node.ofText tree.toText = .ok tree) ∧
      (127 < Json.mostOpen tree.toText →
        ∃ fault, Node.ofText tree.toText = .error (.malformed fault)) := by
  have hread := ofText?_toText tree
  constructor
  · intro hshallow
    rw [if_pos hshallow] at hread
    rw [Node.ofText, hread]
    exact ofJson_toJson_of_wellQuoted h
  · intro hdeep
    rw [if_neg (Nat.not_le.2 hdeep)] at hread
    rw [Node.ofText, hread]
    exact ⟨.notJson, rfl⟩

def wrapped : Nat → Node
  | 0 => .text ("\x01\"\\" ++ r"{𝄞")
  | n + 1 => .expression [wrapped n]

theorem wellQuoted_wrapped (n : Nat) : (wrapped n).WellQuoted := by
  induction n with
  | zero => simp [wrapped, Node.WellQuoted]
  | succ n ih => simp [wrapped, Node.WellQuoted, Node.AllWellQuoted, ih]

theorem mostOpen_wrapped (n : Nat) : Json.mostOpen (wrapped n).toText = 2 * n + 1 := by
  rw [mostOpen_toText]
  induction n with
  | zero => simp [wrapped, Node.toJson, tagged, Json.depth, Json.depthFields]
  | succ n ih =>
    have hdepth : (wrapped (n + 1)).toJson.depth = (wrapped n).toJson.depth + 2 := by
      simp [wrapped, Node.toJson, Node.allToJson, tagged, Json.depth, Json.depthFields,
        Json.depthItems]
    rw [hdepth, ih]
    omega

def wrappedInName (n : Nat) : Node := .markup (.dynamic [wrapped n]) [] [] false false

theorem mostOpen_wrappedInName (n : Nat) :
    Json.mostOpen (wrappedInName n).toText = Json.mostOpen (wrapped n).toText + 3 := by
  rw [mostOpen_toText, mostOpen_toText]
  simp [wrappedInName, Node.toJson, TagName.toJson, Node.allToJson, tagged, Json.depth,
    Json.depthFields, Json.depthItems]

theorem ofText_toText_wrapped :
    (Json.mostOpen (wrapped 63).toText = 127 ∧ Node.ofText (wrapped 63).toText = .ok (wrapped 63)) ∧
      Json.mostOpen (wrappedInName 62).toText = 128 ∧
        ∃ fault, Node.ofText (wrappedInName 62).toText = .error (.malformed fault) := by
  have hname : (wrappedInName 62).WellQuoted := by
    simp [wrappedInName, Node.WellQuoted, TagName.WellQuoted, Node.AllWellQuoted,
      wellQuoted_wrapped]
  have hshallow : Json.mostOpen (wrapped 63).toText = 127 := mostOpen_wrapped 63
  have hdeep : Json.mostOpen (wrappedInName 62).toText = 128 := by
    rw [mostOpen_wrappedInName, mostOpen_wrapped]
  exact ⟨⟨hshallow, (ofText_toText (wellQuoted_wrapped 63)).1 (Nat.le_of_eq hshallow)⟩, hdeep,
    (ofText_toText hname).2 (by omega)⟩

end TemplateCode.Tree
