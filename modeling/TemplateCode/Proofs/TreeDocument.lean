import TemplateCode.Proofs.Quotes
import TemplateCode.Tree.Encode

/-! A tree written as a document and decoded again. The scan leaves an encoded tree as it is, and
decoding gives the tree back unless one of its quotes cannot be written; so every decoded tree,
however it was spelled, has one written form that decodes to it. -/

namespace TemplateCode.Tree

section Scan

theorem scanFields_eq_map (fields : List (String × Json)) :
    scanFields fields = fields.map fun field => (field.1, scan field.2) := by
  induction fields with
  | nil => rw [scanFields, List.map_nil]
  | cons field rest ih => rw [scanFields, List.map_cons, ih]

theorem settle_scanFields {fields : List (String × Json)}
    (h : ∀ field ∈ fields, scan field.2 = .ok field.2) :
    settle (scanFields fields) = .ok fields := by
  induction fields with
  | nil => rfl
  | cons field rest ih =>
    obtain ⟨hfield, hrest⟩ := List.forall_mem_cons.1 h
    rw [scanFields, settle, hfield, ih hrest]
    rfl

theorem moveExpression_of_lookup_eq_none {fields : List (String × Json)}
    (h : fields.lookup "expression" = none) :
    moveExpression fields (scanFields fields) = .ok (scanFields fields) := by
  have herase : Fields.erase "expression" (scanFields fields) = scanFields fields := by
    rw [Fields.erase, List.filter_eq_self, scanFields_eq_map, List.forall_mem_map]
    intro field hfield
    have hne := List.lookup_eq_none_iff.1 h field hfield
    exact bne_comm.trans hne
  rw [moveExpression, h, herase]

theorem scan_object_of_known {fields : List (String × Json)} {kind : Option Kind}
    (hkind : kindOf fields = .ok kind) (hexpression : fields.lookup "expression" = none)
    (hfields : ∀ field ∈ fields, scan field.2 = .ok field.2) :
    scan (.object fields) = .ok (.object fields) := by
  rw [scan]
  refine bind_eq_ok_iff.2 ⟨kind, hkind, ?_⟩
  have hsettled := settle_scanFields hfields
  split
  · have hmoved := moveExpression_of_lookup_eq_none hexpression
    exact bind_eq_ok_iff.2 ⟨_, hmoved, bind_eq_ok_iff.2 ⟨_, hsettled, rfl⟩⟩
  · exact bind_eq_ok_iff.2 ⟨_, hsettled, rfl⟩

end Scan

def documentOf (nodes : List Node) : Json := .array (Json.canonicalItems (Node.allToJson nodes))

def Node.orderedFields : Node → List (String × Json)
  | .program body => [("body", documentOf body), ("type", .string Kind.program.tag)]
  | .explicitExpression values =>
    [("type", .string Kind.explicitExpression.tag), ("values", documentOf values)]
  | .expression values => [("type", .string Kind.expression.tag), ("values", documentOf values)]
  | .markup name attributes values isVoid voidClosed =>
    [("attributes", documentOf attributes), ("isVoid", .bool isVoid),
      ("name", name.toJson.canonical), ("type", .string Kind.markup.tag),
      ("values", documentOf values), ("voidClosed", .bool voidClosed)]
  | .markupAttribute left right quote =>
    [("left", documentOf left), ("right", documentOf right), ("rightIsQuoted", quoteJson quote),
      ("type", .string Kind.markupAttribute.tag)]
  | .block head values tail =>
    [("head", documentOf head), ("tail", documentOf tail), ("type", .string Kind.block.tag),
      ("values", documentOf values)]
  | .indexExpression values =>
    [("type", .string Kind.indexExpression.tag), ("values", documentOf values)]
  | .text value => [("type", .string Kind.text.tag), ("value", .string value)]

theorem canonical_quoteJson (quote : Option Char) :
    (quoteJson quote).canonical = quoteJson quote := by
  cases quote with
  | none => simp only [quoteJson, Json.canonical]
  | some q => simp only [quoteJson, Json.canonical]

theorem canonical_toJson (node : Node) : node.toJson.canonical = .object node.orderedFields := by
  cases node <;>
    simp only [Node.toJson, tagged, Json.canonical, Json.canonicalFields, canonical_quoteJson,
      Fields.ordered, List.foldl_cons, List.foldl_nil, Fields.insert, String.reduceLT,
      String.reduceEq, reduceIte, Node.orderedFields, documentOf]

theorem canonical_dynamic (values : List Node) :
    (TagName.dynamic values).toJson.canonical = .object [("values", documentOf values)] := by
  simp only [TagName.toJson, Json.canonical, Json.canonicalFields, Fields.ordered, List.foldl_cons,
    List.foldl_nil, Fields.insert, documentOf]

theorem canonical_literal (name : String) :
    (TagName.literal name).toJson.canonical = .string name := by
  simp only [TagName.toJson, Json.canonical]

theorem lookup_type (node : Node) :
    node.orderedFields.lookup "type" = some (.string node.kind.tag) := by
  cases node <;> rfl

theorem lookup_expression (node : Node) : node.orderedFields.lookup "expression" = none := by
  cases node <;> rfl

theorem ofTag?_tag (kind : Kind) : Kind.ofTag? kind.tag = some kind := by
  cases kind <;> rfl

theorem kindOf_orderedFields (node : Node) : kindOf node.orderedFields = .ok (some node.kind) := by
  simp only [kindOf, lookup_type, ofTag?_tag]

theorem scan_documentOf {nodes : List Node}
    (h : scanItems (Json.canonicalItems (Node.allToJson nodes)) =
      .ok (Json.canonicalItems (Node.allToJson nodes))) :
    scan (documentOf nodes) = .ok (documentOf nodes) := by
  rw [documentOf, scan, h]
  rfl

theorem scan_quoteJson (quote : Option Char) : scan (quoteJson quote) = .ok (quoteJson quote) := by
  cases quote with
  | none => simp only [quoteJson, scan]
  | some q => simp only [quoteJson, scan]

mutual
theorem scan_toJson (node : Node) : scan node.toJson.canonical = .ok node.toJson.canonical := by
  rw [canonical_toJson]
  refine scan_object_of_known (kindOf_orderedFields node) (lookup_expression node) ?_
  match node with
  | .program body =>
    have hbody := scan_documentOf (scanItems_toJson body)
    simp [Node.orderedFields, hbody, scan]
  | .explicitExpression values | .expression values | .indexExpression values =>
    have hvalues := scan_documentOf (scanItems_toJson values)
    simp [Node.orderedFields, hvalues, scan]
  | .markup name attributes values isVoid voidClosed =>
    have hname := scan_tagName name
    have hattributes := scan_documentOf (scanItems_toJson attributes)
    have hvalues := scan_documentOf (scanItems_toJson values)
    simp [Node.orderedFields, hname, hattributes, hvalues, scan]
  | .markupAttribute left right quote =>
    have hleft := scan_documentOf (scanItems_toJson left)
    have hright := scan_documentOf (scanItems_toJson right)
    simp [Node.orderedFields, hleft, hright, scan_quoteJson, scan]
  | .block head values tail =>
    have hhead := scan_documentOf (scanItems_toJson head)
    have hvalues := scan_documentOf (scanItems_toJson values)
    have htail := scan_documentOf (scanItems_toJson tail)
    simp [Node.orderedFields, hhead, hvalues, htail, scan]
  | .text value => simp [Node.orderedFields, scan]

theorem scan_tagName (name : TagName) : scan name.toJson.canonical = .ok name.toJson.canonical := by
  match name with
  | .literal name => simp only [canonical_literal, scan]
  | .dynamic values =>
    have hvalues := scan_documentOf (scanItems_toJson values)
    rw [canonical_dynamic]
    exact scan_object_of_known rfl rfl (List.forall_mem_singleton.2 hvalues)

theorem scanItems_toJson (nodes : List Node) :
    scanItems (Json.canonicalItems (Node.allToJson nodes)) =
      .ok (Json.canonicalItems (Node.allToJson nodes)) := by
  match nodes with
  | [] => rw [Node.allToJson, Json.canonicalItems, scanItems]
  | node :: rest =>
    have hnode := scan_toJson node
    have hrest := scanItems_toJson rest
    rw [Node.allToJson, Json.canonicalItems, scanItems, hnode, hrest]
    rfl
end

section Decode

variable {α : Type}

@[simp] theorem optional_some_eq_ok_iff {decode : Reading → Except Fault α} {r : Reading}
    {result : Option α} :
    optional decode (some r) = .ok result ↔ ∃ a, decode r = .ok a ∧ some a = result :=
  map_eq_ok_iff

@[simp] theorem required_some_eq_ok_iff {name : String} {a b : α} :
    required name (some a) = .ok b ↔ a = b :=
  pure_eq_ok_iff

theorem decodeNode_object {nested : Bool} {fields : List (String × Json)} {kind : Kind}
    (h : fields.lookup "type" = some (.string kind.tag)) :
    decodeNode nested (.object fields) = objectNode kind (readFields fields) := by
  have htype : typeOf fields = .ok kind := by
    simp only [typeOf, h, decodeKind, ofTag?_tag]
  rw [decodeNode, htype]
  rfl

theorem decodeQuote_quoteJson_iff (quote result : Option Char) :
    decodeQuote (quoteJson quote) = .ok result ↔ IsQuote quote ∧ quote = result := by
  cases quote with
  | none => simp [quoteJson, decodeQuote, IsQuote]
  | some q =>
    simp only [quoteJson, decodeQuote, String.toList_singleton]
    split <;> simp_all [IsQuote]

@[simp] theorem decodeNodes_documentOf (nodes : List Node) :
    decodeNodes (documentOf nodes) = decodeAll (Json.canonicalItems (Node.allToJson nodes)) := by
  rw [documentOf, decodeNodes]

mutual
theorem decodeNode_toJson_iff (nested : Bool) (node result : Node) :
    decodeNode nested node.toJson.canonical = .ok result ↔ node.WellQuoted ∧ node = result := by
  rw [canonical_toJson, decodeNode_object (lookup_type node)]
  match node with
  | .program body =>
    have hbody := decodeAll_toJson_iff body
    simp [objectNode, Node.kind, Node.orderedFields, readFields, Node.WellQuoted, hbody, and_assoc]
  | .explicitExpression values | .expression values | .indexExpression values =>
    have hvalues := decodeAll_toJson_iff values
    simp [objectNode, Node.kind, Node.orderedFields, readFields, List.lookup_cons, Node.WellQuoted,
      hvalues, and_assoc]
  | .markup name attributes values isVoid voidClosed =>
    have hname := decodeTagName_toJson_iff name
    have hattributes := decodeAll_toJson_iff attributes
    have hvalues := decodeAll_toJson_iff values
    simp [objectNode, Node.kind, Node.orderedFields, readFields, List.lookup_cons, Node.WellQuoted,
      Reading.flag, decodeFlag, hname, hattributes, hvalues, and_assoc, and_comm, and_left_comm]
  | .markupAttribute left right quote =>
    have hleft := decodeAll_toJson_iff left
    have hright := decodeAll_toJson_iff right
    have hquote := decodeQuote_quoteJson_iff quote
    simp [objectNode, Node.kind, Node.orderedFields, readFields, List.lookup_cons, Node.WellQuoted,
      Reading.quote, hleft, hright, hquote, and_assoc, and_comm, and_left_comm]
  | .block head values tail =>
    have hhead := decodeAll_toJson_iff head
    have hvalues := decodeAll_toJson_iff values
    have htail := decodeAll_toJson_iff tail
    simp [objectNode, Node.kind, Node.orderedFields, readFields, List.lookup_cons, Node.WellQuoted,
      hhead, hvalues, htail, and_assoc, and_comm, and_left_comm]
  | .text value =>
    simp [objectNode, Node.kind, Node.orderedFields, readFields, List.lookup_cons, Node.WellQuoted,
      Reading.string, decodeString]

theorem decodeTagName_toJson_iff (name result : TagName) :
    decodeTagName name.toJson.canonical = .ok result ↔ name.WellQuoted ∧ name = result := by
  match name with
  | .literal name => simp [canonical_literal, decodeTagName, TagName.WellQuoted]
  | .dynamic values =>
    have hvalues := decodeAll_toJson_iff values
    rw [canonical_dynamic, decodeTagName, readFields, List.lookup_cons_self, decodeNodes_documentOf,
      TagName.WellQuoted]
    cases hdecoded : decodeAll (Json.canonicalItems (Node.allToJson values)) with
    | error fault =>
      have hbad : ¬ Node.AllWellQuoted values := by
        intro hgood
        rw [(hvalues values).2 ⟨hgood, rfl⟩] at hdecoded
        cases hdecoded
      simp [hbad]
    | ok nodes =>
      obtain ⟨hgood, rfl⟩ := (hvalues nodes).1 hdecoded
      simp [hgood]

theorem decodeAll_toJson_iff (nodes result : List Node) :
    decodeAll (Json.canonicalItems (Node.allToJson nodes)) = .ok result ↔
      Node.AllWellQuoted nodes ∧ nodes = result := by
  match nodes with
  | [] => simp [Node.allToJson, Json.canonicalItems, decodeAll, Node.AllWellQuoted]
  | node :: rest =>
    have hnode := decodeNode_toJson_iff true node
    have hrest := decodeAll_toJson_iff rest
    simp [Node.allToJson, Json.canonicalItems, decodeAll, Node.AllWellQuoted, hnode, hrest,
      and_assoc, and_comm, and_left_comm]
end

end Decode

theorem ofJson_toJson_eq (node : Node) :
    Node.ofJson node.toJson =
      match decodeNode false node.toJson.canonical with
      | .ok result => .ok result
      | .error fault => .error (.malformed fault) := by
  rw [Node.ofJson, scan_toJson]
  rfl

theorem ofJson_toJson_of_wellQuoted {tree : Node} (h : tree.WellQuoted) :
    Node.ofJson tree.toJson = .ok tree := by
  rw [ofJson_toJson_eq, (decodeNode_toJson_iff false tree tree).2 ⟨h, rfl⟩]

theorem ofJson_toJson_of_not_wellQuoted {tree : Node} (h : ¬ tree.WellQuoted) :
    ∃ fault, Node.ofJson tree.toJson = .error (.malformed fault) := by
  rw [ofJson_toJson_eq]
  cases hresult : decodeNode false tree.toJson.canonical with
  | ok result => exact absurd ((decodeNode_toJson_iff false tree result).1 hresult).1 h
  | error fault => exact ⟨fault, rfl⟩

theorem wellQuoted_ofJson {document : Json} {tree : Node} (h : Node.ofJson document = .ok tree) :
    tree.WellQuoted := by
  obtain ⟨scanned, -, hdecoded⟩ := bind_eq_ok_iff.1 h
  split at hdecoded
  · next node hnode =>
    cases hdecoded
    exact wellQuoted_decodeNode scanned hnode
  · cases hdecoded

/-- An encoded tree decodes to itself exactly if all its quotes can be written; otherwise it is
malformed. -/
theorem ofJson_toJson_eq_ok_iff (tree : Node) :
    (Node.ofJson tree.toJson = .ok tree ↔ tree.WellQuoted) ∧
      (¬ tree.WellQuoted → ∃ fault, Node.ofJson tree.toJson = .error (.malformed fault)) :=
  ⟨⟨wellQuoted_ofJson, ofJson_toJson_of_wellQuoted⟩, ofJson_toJson_of_not_wellQuoted⟩

def oddlyQuoted : Node :=
  .markup (.dynamic [.markupAttribute [.text "id"] [] (some 'x')]) [] [] true false

theorem ofJson_toJson_oddlyQuoted :
    ¬ oddlyQuoted.WellQuoted ∧
      ∃ fault, Node.ofJson oddlyQuoted.toJson = .error (.malformed fault) := by
  have hbad : ¬ oddlyQuoted.WellQuoted := by
    simp [oddlyQuoted, Node.WellQuoted, TagName.WellQuoted, Node.AllWellQuoted, IsQuote]
  exact ⟨hbad, (ofJson_toJson_eq_ok_iff oddlyQuoted).2 hbad⟩

/-- Whatever a document's spelling, the tree that it decodes to has a written form that decodes to
the same tree. -/
theorem ofJson_toJson_of_decoded {document : Json} {tree : Node}
    (h : Node.ofJson document = .ok tree) :
    tree.WellQuoted ∧ Node.ofJson tree.toJson = .ok tree := by
  have hgood := wellQuoted_ofJson h
  exact ⟨hgood, ofJson_toJson_of_wellQuoted hgood⟩

/-- A program as an array, its element with a computed name in the older way and an unknown key, and
attributes by index and with defaults left out. -/
def looselySpelled : Json :=
  .array [.string "VashProgram", .array [
    .object [("type", .string "VashMarkup"), ("name", .string ""), ("line", .number (.integer 3)),
      ("expression", .object [("value", .string "tag"), ("type", .string "VashText")]),
      ("attributes", .array [
        .array [.number (.integer 4), .array [], .array [], .bool true],
        .object [("type", .string "VashMarkupAttribute"), ("left", .array []),
          ("rightIsQuoted", .string "")]])]]]

def looselySpelledTree : Node :=
  .program [.markup (.dynamic [.text "tag"])
    [.markupAttribute [] [] (some '"'), .markupAttribute [] [] none] [] false false]

theorem ofJson_toJson_looselySpelled :
    Node.ofJson looselySpelled = .ok looselySpelledTree ∧ looselySpelledTree.WellQuoted ∧
      Node.ofJson looselySpelledTree.toJson = .ok looselySpelledTree := by
  have hdecoded : Node.ofJson looselySpelled = .ok looselySpelledTree := by rfl
  exact ⟨hdecoded, ofJson_toJson_of_decoded hdecoded⟩

end TemplateCode.Tree
