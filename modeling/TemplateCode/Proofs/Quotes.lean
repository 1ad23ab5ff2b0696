import TemplateCode.Proofs.Outcome
import TemplateCode.Tree.Decode

/-! The attribute quotes of a tree. Whatever way a document spells them, decoding yields only the
two quotes that can be written, or none. -/

namespace TemplateCode.Tree

def IsQuote (quote : Option Char) : Prop := quote = none ∨ quote = some '"' ∨ quote = some '\''

mutual
/-- All attributes in a tree, also those in computed names and in void elements, have quotes that
can be written. -/
def Node.WellQuoted : Node → Prop
  | .program body => Node.AllWellQuoted body
  | .explicitExpression values => Node.AllWellQuoted values
  | .expression values => Node.AllWellQuoted values
  | .markup name attributes values _ _ =>
    name.WellQuoted ∧ Node.AllWellQuoted attributes ∧ Node.AllWellQuoted values
  | .markupAttribute left right quote =>
    Node.AllWellQuoted left ∧ Node.AllWellQuoted right ∧ IsQuote quote
  | .block head values tail =>
    Node.AllWellQuoted head ∧ Node.AllWellQuoted values ∧ Node.AllWellQuoted tail
  | .indexExpression values => Node.AllWellQuoted values
  | .text _ => True

def TagName.WellQuoted : TagName → Prop
  | .literal _ => True
  | .dynamic values => Node.AllWellQuoted values

def Node.AllWellQuoted : List Node → Prop
  | [] => True
  | node :: rest => node.WellQuoted ∧ Node.AllWellQuoted rest
end

theorem Node.allWellQuoted_nil : Node.AllWellQuoted [] := by
  rw [Node.AllWellQuoted]
  trivial

theorem isQuote_decodeQuote {value : Json} {quote : Option Char}
    (h : decodeQuote value = .ok quote) : IsQuote quote := by
  rw [decodeQuote.eq_def] at h
  split at h
  · cases h
    exact .inl rfl
  · cases h
    exact .inl rfl
  · cases h
    exact .inr (.inl rfl)
  · split at h
    · cases h
      exact .inl rfl
    · cases h
      exact .inr (.inl rfl)
    · cases h
      exact .inr (.inr rfl)
    · cases h
  · cases h

structure Reading.WellQuoted (r : Reading) : Prop where
  nodes : ∀ nodes, r.nodes = .ok nodes → Node.AllWellQuoted nodes
  tagName : ∀ name, r.tagName = .ok name → name.WellQuoted

section Fields

variable {α : Type} {P : α → Prop} {decode : Reading → Except Fault α}

theorem optional_eq_ok {found : Option Reading} {result : Option α}
    (h : optional decode found = .ok result) (hP : ∀ r ∈ found, ∀ a, decode r = .ok a → P a) :
    ∀ a ∈ result, P a := by
  cases found with
  | none =>
    cases h
    nofun
  | some r =>
    obtain ⟨a, ha, rfl⟩ := map_eq_ok_iff.1 h
    rintro _ ⟨⟩
    exact hP r rfl a ha

theorem required_eq_ok {name : String} {found : Option α} {a : α}
    (h : required name found = .ok a) : found = some a := by
  cases found with
  | none => cases h
  | some b =>
    cases h
    rfl

theorem getD_of_forall {found : Option α} {default : α} (hfound : ∀ a ∈ found, P a)
    (hdefault : P default) : P (found.getD default) := by
  cases found with
  | none => exact hdefault
  | some a => exact hfound a rfl

theorem firstArgument_eq_ok {kind : Kind} {arguments : List Reading} {a : α}
    (h : firstArgument kind decode arguments = .ok a)
    (hP : ∀ r ∈ arguments, ∀ a, decode r = .ok a → P a) : P a := by
  cases arguments with
  | nil => cases h
  | cons r rest => exact hP r List.mem_cons_self a h

theorem argument_eq_ok {position : Nat} {default : α} {arguments : List Reading} {a : α}
    (h : argument decode position default arguments = .ok a)
    (hP : ∀ r ∈ arguments, ∀ a, decode r = .ok a → P a) (hdefault : P default) : P a := by
  obtain ⟨found, hfound, ha⟩ := bind_eq_ok_iff.1 h
  rw [← pure_eq_ok_iff.1 ha]
  refine getD_of_forall (optional_eq_ok hfound fun r hr => hP r ?_) hdefault
  exact List.mem_of_getElem? hr

end Fields

theorem Node.allWellQuoted_getD {found : Option (List Node)}
    (h : ∀ nodes ∈ found, Node.AllWellQuoted nodes) : Node.AllWellQuoted (found.getD []) :=
  getD_of_forall h Node.allWellQuoted_nil

theorem wellQuoted_objectNode {kind : Kind} {fields : List (String × Reading)} {node : Node}
    (h : objectNode kind fields = .ok node) (hfields : ∀ field ∈ fields, field.2.WellQuoted) :
    node.WellQuoted := by
  have hlookup : ∀ key, ∀ r ∈ fields.lookup key, r.WellQuoted := by
    intro key r hr
    obtain ⟨before, after, rfl, -⟩ := List.lookup_eq_some_iff.1 hr
    exact hfields (key, r) (by simp)
  have hnodes : ∀ {key : String} {found : Option (List Node)},
      optional Reading.nodes (fields.lookup key) = .ok found →
        ∀ nodes ∈ found, Node.AllWellQuoted nodes :=
    fun {key _} hfound => optional_eq_ok hfound fun r hr => (hlookup key r hr).nodes
  cases kind with
  | program | explicitExpression | expression | indexExpression =>
    simp only [objectNode, bind_eq_ok_iff, pure_eq_ok_iff] at h
    obtain ⟨found, hfound, nodes, hsome, rfl⟩ := h
    have hquotes := hnodes hfound nodes (required_eq_ok hsome)
    rwa [Node.WellQuoted]
  | markup =>
    simp only [objectNode, bind_eq_ok_iff, pure_eq_ok_iff] at h
    obtain ⟨attributes, hattributes, isVoid, -, name, hname, values, hvalues, voidClosed, -,
      tag, htag, rfl⟩ := h
    have hquotes := optional_eq_ok hname fun r hr => (hlookup _ r hr).tagName
    rw [Node.WellQuoted]
    exact ⟨hquotes tag (required_eq_ok htag), Node.allWellQuoted_getD (hnodes hattributes),
      Node.allWellQuoted_getD (hnodes hvalues)⟩
  | markupAttribute =>
    simp only [objectNode, bind_eq_ok_iff, pure_eq_ok_iff] at h
    obtain ⟨left, hleft, right, hright, quote, hquote, nodes, hleft', rfl⟩ := h
    have hquotes := optional_eq_ok hquote fun r _ _ => isQuote_decodeQuote
    rw [Node.WellQuoted]
    exact ⟨hnodes hleft nodes (required_eq_ok hleft'), Node.allWellQuoted_getD (hnodes hright),
      getD_of_forall hquotes (.inl rfl)⟩
  | block =>
    simp only [objectNode, bind_eq_ok_iff, pure_eq_ok_iff] at h
    obtain ⟨head, hhead, tail, htail, values, hvalues, rfl⟩ := h
    rw [Node.WellQuoted]
    exact ⟨Node.allWellQuoted_getD (hnodes hhead), Node.allWellQuoted_getD (hnodes hvalues),
      Node.allWellQuoted_getD (hnodes htail)⟩
  | text =>
    simp only [objectNode, bind_eq_ok_iff, pure_eq_ok_iff] at h
    obtain ⟨_, -, value, -, rfl⟩ := h
    rw [Node.WellQuoted]
    trivial

theorem wellQuoted_argumentsNode {kind : Kind} {arguments : List Reading} {node : Node}
    (h : argumentsNode kind arguments = .ok node) (hall : ∀ r ∈ arguments, r.WellQuoted) :
    node.WellQuoted := by
  have hnodes : ∀ r ∈ arguments, ∀ nodes, r.nodes = .ok nodes → Node.AllWellQuoted nodes :=
    fun r hr => (hall r hr).nodes
  have hargument : ∀ {position : Nat} {nodes : List Node},
      argument Reading.nodes position [] arguments = .ok nodes → Node.AllWellQuoted nodes :=
    fun hn => argument_eq_ok hn hnodes Node.allWellQuoted_nil
  cases kind with
  | program | explicitExpression | expression | indexExpression =>
    obtain ⟨nodes, hn, rfl⟩ := map_eq_ok_iff.1 h
    have hquotes := firstArgument_eq_ok hn hnodes
    rwa [Node.WellQuoted]
  | markup =>
    simp only [argumentsNode, bind_eq_ok_iff, pure_eq_ok_iff] at h
    obtain ⟨name, hname, attributes, hattributes, values, hvalues, isVoid, -, voidClosed, -,
      rfl⟩ := h
    have hquotes := firstArgument_eq_ok hname fun r hr => (hall r hr).tagName
    rw [Node.WellQuoted]
    exact ⟨hquotes, hargument hattributes, hargument hvalues⟩
  | markupAttribute =>
    simp only [argumentsNode, bind_eq_ok_iff, pure_eq_ok_iff] at h
    obtain ⟨left, hleft, right, hright, quote, hquote, rfl⟩ := h
    have hquotes := argument_eq_ok hquote (fun _ _ _ => isQuote_decodeQuote) (.inl rfl)
    rw [Node.WellQuoted]
    exact ⟨firstArgument_eq_ok hleft hnodes, hargument hright, hquotes⟩
  | block =>
    simp only [argumentsNode, bind_eq_ok_iff, pure_eq_ok_iff] at h
    obtain ⟨head, hhead, values, hvalues, tail, htail, rfl⟩ := h
    rw [Node.WellQuoted]
    exact ⟨hargument hhead, hargument hvalues, hargument htail⟩
  | text =>
    obtain ⟨value, -, rfl⟩ := map_eq_ok_iff.1 h
    rw [Node.WellQuoted]
    trivial

mutual
theorem wellQuoted_decodeNode {nested : Bool} (value : Json) {node : Node}
    (h : decodeNode nested value = .ok node) : node.WellQuoted := by
  match value with
  | .object fields =>
    rw [decodeNode] at h
    obtain ⟨kind, -, hnode⟩ := bind_eq_ok_iff.1 h
    exact wellQuoted_objectNode hnode (wellQuoted_readFields fields)
  | .array [] => simp [decodeNode] at h
  | .array (tag :: arguments) =>
    simp only [decodeNode, arrayNode, bind_eq_ok_iff, pure_eq_ok_iff] at h
    obtain ⟨kind, -, _, hnode, -, -, rfl⟩ := h
    exact wellQuoted_argumentsNode hnode (wellQuoted_readAll arguments)
  | .null | .bool _ | .number _ | .string _ => simp [decodeNode, mismatch] at h

theorem wellQuoted_decodeNodes (value : Json) (nodes : List Node)
    (h : decodeNodes value = .ok nodes) : Node.AllWellQuoted nodes := by
  match value with
  | .array items =>
    rw [decodeNodes] at h
    exact wellQuoted_decodeAll items nodes h
  | .null | .bool _ | .number _ | .string _ | .object _ => simp [decodeNodes, mismatch] at h

theorem wellQuoted_decodeAll (items : List Json) (nodes : List Node)
    (h : decodeAll items = .ok nodes) : Node.AllWellQuoted nodes := by
  match items with
  | [] =>
    rw [decodeAll] at h
    cases h
    exact Node.allWellQuoted_nil
  | item :: rest =>
    simp only [decodeAll, bind_eq_ok_iff, pure_eq_ok_iff] at h
    obtain ⟨node, hnode, nodes, hnodes, rfl⟩ := h
    have hfirst := wellQuoted_decodeNode item hnode
    have hrest := wellQuoted_decodeAll rest nodes hnodes
    rw [Node.AllWellQuoted]
    exact ⟨hfirst, hrest⟩

theorem wellQuoted_decodeTagName (value : Json) (name : TagName)
    (h : decodeTagName value = .ok name) : name.WellQuoted := by
  match value with
  | .string s =>
    rw [decodeTagName] at h
    cases h
    rw [TagName.WellQuoted]
    trivial
  | .object fields =>
    rw [decodeTagName] at h
    split at h
    · next nodes _ hfound =>
      cases h
      obtain ⟨before, after, hfields, -⟩ := List.lookup_eq_some_iff.1 hfound
      have hall := wellQuoted_readFields fields
      rw [hfields, List.forall_mem_append, List.forall_mem_cons] at hall
      rw [TagName.WellQuoted]
      exact hall.2.1.nodes nodes rfl
    · cases h
  | .null | .bool _ | .number _ | .array _ => simp [decodeTagName] at h

theorem wellQuoted_readFields (fields : List (String × Json)) :
    ∀ field ∈ readFields fields, field.2.WellQuoted := by
  match fields with
  | [] =>
    rw [readFields]
    exact List.forall_mem_nil _
  | (key, value) :: rest =>
    have hrest := wellQuoted_readFields rest
    have hnodes := wellQuoted_decodeNodes value
    have htagName := wellQuoted_decodeTagName value
    rw [readFields, List.forall_mem_cons]
    exact ⟨⟨hnodes, htagName⟩, hrest⟩

theorem wellQuoted_readAll (values : List Json) : ∀ r ∈ readAll values, r.WellQuoted := by
  match values with
  | [] =>
    rw [readAll]
    exact List.forall_mem_nil _
  | value :: rest =>
    have hrest := wellQuoted_readAll rest
    have hnodes := wellQuoted_decodeNodes value
    have htagName := wellQuoted_decodeTagName value
    rw [readAll, List.forall_mem_cons]
    exact ⟨⟨hnodes, htagName⟩, hrest⟩
end

end TemplateCode.Tree
