import TemplateCode.Proofs.Visits

/-! The ways to write a tree as a document. Each node may be an object, with its defaults left out
and other keys beside its own, or an array, with the defaults at its end left out. Whatever mixture
of these a document is, it decodes to the tree. -/

namespace TemplateCode.Tree

mutual
def Typeless : Json → Prop
  | .array items => TypelessItems items
  | .object fields => TypelessFields fields
  | _ => True

def TypelessItems : List Json → Prop
  | [] => True
  | item :: rest => Typeless item ∧ TypelessItems rest

def TypelessFields : List (String × Json) → Prop
  | [] => True
  | (key, value) :: rest => key ≠ "type" ∧ Typeless value ∧ TypelessFields rest
end

/-- A field of a node: its key, how its value may be written and when it may be left out. -/
structure Slot where
  key : String
  Admits : Json → Prop
  Omissible : Prop

def Slot.WrittenAs (slot : Slot) : Option Json → Prop
  | none => slot.Omissible
  | some value => slot.Admits value

/-- A node as an object. What stands under other keys than its own is free but for types. -/
structure ObjectForm (kind : Kind) (slots : List Slot) (fields : List (String × Json)) : Prop where
  type : Fields.value? "type" fields = some (.string kind.tag)
  own : ∀ slot ∈ slots, slot.WrittenAs (Fields.value? slot.key fields)
  other : ∀ key value, Fields.value? key fields = some value → key ≠ "type" →
    (∀ slot ∈ slots, slot.key ≠ key) → Typeless value ∧ ¬ (kind = .markup ∧ key = "expression")

structure ArrayForm (slots : List Slot) (arguments : List Json) : Prop where
  length_le : arguments.length ≤ slots.length
  own : ∀ (i : Nat) (slot : Slot), slots[i]? = some slot → slot.WrittenAs arguments[i]?

inductive Written (kind : Kind) (slots : List Slot) : Json → Prop
  | object {fields : List (String × Json)} (h : ObjectForm kind slots fields) :
    Written kind slots (.object fields)
  | array {arguments : List Json} (h : ArrayForm slots arguments) :
    Written kind slots (.array (.string kind.tag :: arguments))

def nodesSlot (key : String) (Lists : List Json → Prop) (omissible : Prop) : Slot :=
  ⟨key, fun value => ∃ items, value = .array items ∧ Lists items, omissible⟩

def flagSlot (key : String) (flag : Bool) : Slot := ⟨key, (· = .bool flag), flag = false⟩

def QuoteSpelledBy : Option Char → Json → Prop
  | none, value => value = .null ∨ value = .bool false ∨ value = .string ""
  | some quote, value =>
    value = .string (String.singleton quote) ∨ (quote = '"' ∧ value = .bool true)

mutual
def Node.SpelledBy : Node → Json → Prop
  | .program body => Written .program [nodesSlot "body" (Node.EachSpelledBy body) False]
  | .explicitExpression values =>
    Written .explicitExpression [nodesSlot "values" (Node.EachSpelledBy values) False]
  | .expression values =>
    Written .expression [nodesSlot "values" (Node.EachSpelledBy values) False]
  | .markup name attributes values isVoid voidClosed =>
    Written .markup [⟨"name", name.SpelledBy, False⟩,
      nodesSlot "attributes" (Node.EachSpelledBy attributes) (attributes = []),
      nodesSlot "values" (Node.EachSpelledBy values) (values = []),
      flagSlot "isVoid" isVoid, flagSlot "voidClosed" voidClosed]
  | .markupAttribute left right quote =>
    Written .markupAttribute [nodesSlot "left" (Node.EachSpelledBy left) False,
      nodesSlot "right" (Node.EachSpelledBy right) (right = []),
      ⟨"rightIsQuoted", QuoteSpelledBy quote, quote = none⟩]
  | .block head values tail =>
    Written .block [nodesSlot "head" (Node.EachSpelledBy head) (head = []),
      nodesSlot "values" (Node.EachSpelledBy values) (values = []),
      nodesSlot "tail" (Node.EachSpelledBy tail) (tail = [])]
  | .indexExpression values =>
    Written .indexExpression [nodesSlot "values" (Node.EachSpelledBy values) False]
  | .text value => Written .text [⟨"value", (· = .string value), False⟩]

def TagName.SpelledBy : TagName → Json → Prop
  | .literal name, value => value = .string name
  | .dynamic values, value =>
    ∃ fields items, value = .object fields ∧ Fields.value? "values" fields = some (.array items) ∧
      Node.EachSpelledBy values items ∧
      ∀ key value, Fields.value? key fields = some value → key ≠ "values" →
        key ≠ "type" ∧ Typeless value

def Node.EachSpelledBy : List Node → List Json → Prop
  | [], items => items = []
  | node :: rest, items =>
    ∃ item others, items = item :: others ∧ node.SpelledBy item ∧ Node.EachSpelledBy rest others
end

def Steady (value : Json) : Prop := scan value.canonical = .ok value.canonical

section Steady

theorem steady_array {items : List Json} (h : ∀ item ∈ items, Steady item) :
    Steady (.array items) := by
  have hitems : scanItems (Json.canonicalItems items) = .ok (Json.canonicalItems items) := by
    induction items with
    | nil => rw [Json.canonicalItems, scanItems]
    | cons item rest ih =>
      obtain ⟨hitem, hrest⟩ := List.forall_mem_cons.1 h
      rw [Json.canonicalItems, scanItems, hitem, ih hrest]
      rfl
  rw [Steady, Json.canonical, scan, hitems]
  rfl

theorem steady_object {fields : List (String × Json)}
    (htype : ∀ value, Fields.value? "type" fields = some value → ∃ kind : Kind,
      value = .string kind.tag ∧
        (kind = .markup → Fields.value? "expression" fields = none))
    (hvalues : ∀ key value, Fields.value? key fields = some value → Steady value) :
    Steady (.object fields) := by
  have hfields : ∀ field ∈ Fields.ordered (Json.canonicalFields fields),
      scan field.2 = .ok field.2 := by
    intro field hfield
    have hlookup := (Fields.ascending_ordered _).lookup_of_mem hfield
    rw [Json.lookup_canonical, Option.map_eq_some_iff] at hlookup
    obtain ⟨value, hvalue, hcanonical⟩ := hlookup
    rw [← hcanonical]
    exact hvalues field.1 value hvalue
  rw [Steady, Json.canonical]
  cases hfound : Fields.value? "type" fields with
  | none =>
    have hlookup : (Fields.ordered (Json.canonicalFields fields)).lookup "type" = none := by
      rw [Json.lookup_canonical, hfound, Option.map_none]
    refine scan_object_eq_self ?_ (folded_eq_self fun hmarkup => ?_) hfields
    · rw [offence?_eq_none_iff, hlookup]
      exact .inl rfl
    · rw [isMarkup_iff, hlookup] at hmarkup
      cases hmarkup
  | some value =>
    obtain ⟨kind, rfl, hexpression⟩ := htype value hfound
    have hlookup : ((Fields.ordered (Json.canonicalFields fields)).lookup "type").map Json.shape =
        some (.string kind.tag) := by
      rw [Json.lookup_canonical, hfound]
      simp only [Option.map_some, Json.canonical, Json.shape]
    have hnone : kind = .markup →
        (Fields.ordered (Json.canonicalFields fields)).lookup "expression" = none := by
      intro hmarkup
      rw [Json.lookup_canonical, hexpression hmarkup, Option.map_none]
    refine scan_object_eq_self ?_ (folded_eq_self fun hmarkup => ?_) hfields
    · rw [offence?_eq_none_iff]
      refine .inr ⟨kind.tag, by cases kind <;> decide, hlookup, fun hmarkup => ?_⟩
      rw [hnone (tag_injective hmarkup)]
      exact List.mem_cons_self
    · rw [isMarkup_iff, hlookup, Option.some_inj, Json.Shape.string.injEq] at hmarkup
      exact hnone (tag_injective hmarkup)

mutual
theorem steady_of_typeless (value : Json) (h : Typeless value) : Steady value := by
  match value with
  | .array items =>
    rw [Typeless] at h
    exact steady_array (steady_of_typelessItems items h)
  | .object fields =>
    rw [Typeless] at h
    have hfields := steady_of_typelessFields fields h
    refine steady_object (fun value hvalue => ?_) fun key value hvalue => ?_
    · exact absurd rfl (hfields _ (Fields.mem_of_value? hvalue)).1
    · exact (hfields _ (Fields.mem_of_value? hvalue)).2
  | .null | .bool _ | .number _ | .string _ => simp only [Steady, Json.canonical, scan]

theorem steady_of_typelessItems (items : List Json) (h : TypelessItems items) :
    ∀ item ∈ items, Steady item := by
  match items with
  | [] => exact List.forall_mem_nil _
  | item :: rest =>
    rw [TypelessItems] at h
    rw [List.forall_mem_cons]
    exact ⟨steady_of_typeless item h.1, steady_of_typelessItems rest h.2⟩

theorem steady_of_typelessFields (fields : List (String × Json)) (h : TypelessFields fields) :
    ∀ field ∈ fields, field.1 ≠ "type" ∧ Steady field.2 := by
  match fields with
  | [] => exact List.forall_mem_nil _
  | (key, value) :: rest =>
    rw [TypelessFields] at h
    rw [List.forall_mem_cons]
    exact ⟨⟨h.1, steady_of_typeless value h.2.1⟩, steady_of_typelessFields rest h.2.2⟩
end

theorem steady_of_written {kind : Kind} {slots : List Slot} {document : Json}
    (h : Written kind slots document)
    (hslots : ∀ slot ∈ slots, ∀ value, slot.Admits value → Steady value)
    (hkeys : kind = .markup → ∀ slot ∈ slots, slot.key ≠ "expression") : Steady document := by
  cases h with
  | @object fields h =>
    refine steady_object (fun value hvalue => ?_) fun key value hvalue => ?_
    · refine ⟨kind, Option.some.inj (hvalue.symm.trans h.type), fun hmarkup => ?_⟩
      by_contra hsome
      obtain ⟨other, hother⟩ := Option.ne_none_iff_exists'.1 hsome
      exact (h.other "expression" other hother (by decide) (hkeys hmarkup)).2 ⟨hmarkup, rfl⟩
    · by_cases htype : key = "type"
      · rw [htype, h.type] at hvalue
        cases hvalue
        simp only [Steady, Json.canonical, scan]
      · by_cases hown : ∀ slot ∈ slots, slot.key ≠ key
        · exact steady_of_typeless value (h.other key value hvalue htype hown).1
        · obtain ⟨slot, hslot, rfl⟩ : ∃ slot ∈ slots, slot.key = key := by simpa using hown
          have hadmits := h.own slot hslot
          rw [hvalue] at hadmits
          exact hslots slot hslot value hadmits
  | @array arguments h =>
    refine steady_array (List.forall_mem_cons.2 ⟨?_, fun item hitem => ?_⟩)
    · simp only [Steady, Json.canonical, scan]
    · obtain ⟨i, hi, rfl⟩ := List.getElem_of_mem hitem
      have hslot := List.getElem?_eq_getElem (hi.trans_le h.length_le)
      have hadmits := h.own i _ hslot
      rw [List.getElem?_eq_getElem hi] at hadmits
      exact hslots _ (List.mem_of_getElem? hslot) _ hadmits

theorem steady_quote {quote : Option Char} (value : Json) (h : QuoteSpelledBy quote value) :
    Steady value := by
  cases quote with
  | none => rcases h with rfl | rfl | rfl <;> simp only [Steady, Json.canonical, scan]
  | some q => rcases h with rfl | ⟨-, rfl⟩ <;> simp only [Steady, Json.canonical, scan]

theorem steady_nodesSlot {key : String} {Lists : List Json → Prop} {omissible : Prop}
    (h : ∀ items, Lists items → ∀ item ∈ items, Steady item) (value : Json)
    (hvalue : (nodesSlot key Lists omissible).Admits value) : Steady value := by
  obtain ⟨items, rfl, hitems⟩ := hvalue
  exact steady_array (h items hitems)

theorem steady_flagSlot {key : String} {flag : Bool} (value : Json)
    (hvalue : (flagSlot key flag).Admits value) : Steady value := by
  cases hvalue
  simp only [Steady, Json.canonical, scan]

mutual
theorem Node.steady_of_spelledBy (node : Node) (document : Json) (h : node.SpelledBy document) :
    Steady document := by
  match node with
  | .program body =>
    rw [Node.SpelledBy] at h
    have hbody := Node.steady_of_eachSpelledBy body
    exact steady_of_written h (List.forall_mem_singleton.2 (steady_nodesSlot hbody)) nofun
  | .explicitExpression values | .expression values | .indexExpression values =>
    rw [Node.SpelledBy] at h
    have hvalues := Node.steady_of_eachSpelledBy values
    exact steady_of_written h (List.forall_mem_singleton.2 (steady_nodesSlot hvalues)) nofun
  | .markup name attributes values isVoid voidClosed =>
    rw [Node.SpelledBy] at h
    have hname := TagName.steady_of_spelledBy name
    have hattributes := Node.steady_of_eachSpelledBy attributes
    have hvalues := Node.steady_of_eachSpelledBy values
    refine steady_of_written h ?_ fun _ => by simp [nodesSlot, flagSlot]
    simp only [List.forall_mem_cons]
    exact ⟨hname, steady_nodesSlot hattributes, steady_nodesSlot hvalues, steady_flagSlot,
      steady_flagSlot, List.forall_mem_nil _⟩
  | .markupAttribute left right quote =>
    rw [Node.SpelledBy] at h
    have hleft := Node.steady_of_eachSpelledBy left
    have hright := Node.steady_of_eachSpelledBy right
    refine steady_of_written h ?_ nofun
    simp only [List.forall_mem_cons]
    exact ⟨steady_nodesSlot hleft, steady_nodesSlot hright, steady_quote,
      List.forall_mem_nil _⟩
  | .block head values tail =>
    rw [Node.SpelledBy] at h
    have hhead := Node.steady_of_eachSpelledBy head
    have hvalues := Node.steady_of_eachSpelledBy values
    have htail := Node.steady_of_eachSpelledBy tail
    refine steady_of_written h ?_ nofun
    simp only [List.forall_mem_cons]
    exact ⟨steady_nodesSlot hhead, steady_nodesSlot hvalues, steady_nodesSlot htail,
      List.forall_mem_nil _⟩
  | .text value =>
    rw [Node.SpelledBy] at h
    refine steady_of_written h (List.forall_mem_singleton.2 ?_) nofun
    rintro _ rfl
    simp only [Steady, Json.canonical, scan]

theorem TagName.steady_of_spelledBy (name : TagName) (document : Json)
    (h : name.SpelledBy document) : Steady document := by
  match name with
  | .literal name =>
    rw [TagName.SpelledBy] at h
    rw [h]
    simp only [Steady, Json.canonical, scan]
  | .dynamic values =>
    rw [TagName.SpelledBy] at h
    obtain ⟨fields, items, rfl, hvalues, hitems, hother⟩ := h
    have hsteady := steady_array (Node.steady_of_eachSpelledBy values items hitems)
    refine steady_object (fun value hvalue => ?_) fun key value hvalue => ?_
    · exact absurd rfl (hother "type" value hvalue (by decide)).1
    · by_cases hkey : key = "values"
      · rw [hkey, hvalues] at hvalue
        cases hvalue
        exact hsteady
      · exact steady_of_typeless value (hother key value hvalue hkey).2

theorem Node.steady_of_eachSpelledBy (nodes : List Node) (items : List Json)
    (h : Node.EachSpelledBy nodes items) : ∀ item ∈ items, Steady item := by
  match nodes with
  | [] =>
    rw [Node.EachSpelledBy] at h
    rw [h]
    exact List.forall_mem_nil _
  | node :: rest =>
    rw [Node.EachSpelledBy] at h
    obtain ⟨item, others, rfl, hnode, hrest⟩ := h
    rw [List.forall_mem_cons]
    exact ⟨Node.steady_of_spelledBy node item hnode,
      Node.steady_of_eachSpelledBy rest others hrest⟩
end

end Steady

section Decode

variable {α : Type}

def readingOf (value : Json) : Reading := ⟨value, decodeNodes value, decodeTagName value⟩

theorem lookup_readFields (key : String) (fields : List (String × Json)) :
    (readFields (Fields.ordered (Json.canonicalFields fields))).lookup key =
      (Fields.value? key fields).map fun value => readingOf value.canonical := by
  have hmap : ∀ fields, readFields fields = fields.map fun field => (field.1, readingOf field.2) := by
    intro fields
    induction fields with
    | nil => rw [readFields, List.map_nil]
    | cons field rest ih =>
      rw [readFields, ih, List.map_cons]
      rfl
  rw [hmap, Fields.lookup_map, Json.lookup_canonical, Option.map_map]
  rfl

theorem readAll_canonicalItems (items : List Json) :
    readAll (Json.canonicalItems items) = items.map fun value => readingOf value.canonical := by
  induction items with
  | nil => rw [Json.canonicalItems, readAll, List.map_nil]
  | cons item rest ih =>
    rw [Json.canonicalItems, readAll, ih, List.map_cons]
    rfl

/-- However a slot is written, it is decoded to one value; a slot that may be left out has this
value by default. -/
structure Slot.Describes (slot : Slot) (decode : Reading → Except Fault α) (default : Option α)
    (a : α) : Prop where
  admits : ∀ value, slot.Admits value → decode (readingOf value.canonical) = .ok a
  omitted : slot.Omissible → default = some a

section Slot

variable {slot : Slot} {slots : List Slot} {decode : Reading → Except Fault α} {a default : α}
variable {kind : Kind} {fields : List (String × Json)} {arguments : List Json}

theorem Slot.Describes.required (h : slot.Describes decode none a) {found : Option Json}
    (hfound : slot.WrittenAs found) :
    ∃ value, found = some value ∧ decode (readingOf value.canonical) = .ok a := by
  cases found with
  | none => cases h.omitted hfound
  | some value => exact ⟨value, rfl, h.admits value hfound⟩

theorem Slot.Describes.defaulted (h : slot.Describes decode (some default) a) {found : Option Json}
    (hfound : slot.WrittenAs found) :
    ∃ result, optional decode (found.map fun value => readingOf value.canonical) = .ok result ∧
      result.getD default = a := by
  cases found with
  | none => exact ⟨none, rfl, Option.some.inj (h.omitted hfound)⟩
  | some value => exact ⟨some a, map_eq_ok_iff.2 ⟨a, h.admits value hfound, rfl⟩, rfl⟩

theorem ObjectForm.required (h : ObjectForm kind slots fields) (i : Nat)
    (hslot : slots[i]? = some slot) (hdescribes : slot.Describes decode none a) :
    optional decode ((readFields (Fields.ordered (Json.canonicalFields fields))).lookup slot.key) =
      .ok (some a) := by
  obtain ⟨value, hfound, hvalue⟩ :=
    hdescribes.required (h.own slot (List.mem_of_getElem? hslot))
  rw [lookup_readFields, hfound]
  exact map_eq_ok_iff.2 ⟨a, hvalue, rfl⟩

theorem ObjectForm.defaulted (h : ObjectForm kind slots fields) (i : Nat)
    (hslot : slots[i]? = some slot) (hdescribes : slot.Describes decode (some default) a) :
    ∃ result, optional decode
        ((readFields (Fields.ordered (Json.canonicalFields fields))).lookup slot.key) = .ok result ∧
      result.getD default = a := by
  rw [lookup_readFields]
  exact hdescribes.defaulted (h.own slot (List.mem_of_getElem? hslot))

theorem ArrayForm.first (h : ArrayForm slots arguments) (hslot : slots[0]? = some slot)
    (hdescribes : slot.Describes decode none a) :
    firstArgument kind decode (readAll (Json.canonicalItems arguments)) = .ok a := by
  obtain ⟨value, hfound, hvalue⟩ := hdescribes.required (h.own 0 slot hslot)
  rw [readAll_canonicalItems]
  cases arguments with
  | nil => cases hfound
  | cons first rest =>
    cases hfound
    exact hvalue

theorem ArrayForm.argument {i : Nat} (h : ArrayForm slots arguments) (hslot : slots[i]? = some slot)
    (hdescribes : slot.Describes decode (some default) a) :
    argument decode i default (readAll (Json.canonicalItems arguments)) = .ok a := by
  obtain ⟨result, hresult, rfl⟩ := hdescribes.defaulted (h.own i slot hslot)
  rw [readAll_canonicalItems, Tree.argument, List.getElem?_map, hresult]
  rfl

theorem decodeNode_of_written {nested : Bool} {document : Json} {node : Node}
    (h : Written kind slots document) (hlength : slots.length = arity kind)
    (hobject : ∀ fields, ObjectForm kind slots fields →
      objectNode kind (readFields (Fields.ordered (Json.canonicalFields fields))) = .ok node)
    (harray : ∀ arguments, ArrayForm slots arguments →
      argumentsNode kind (readAll (Json.canonicalItems arguments)) = .ok node) :
    decodeNode nested document.canonical = .ok node := by
  cases h with
  | @object fields h =>
    have htype : (Fields.ordered (Json.canonicalFields fields)).lookup "type" =
        some (.string kind.tag) := by
      rw [Json.lookup_canonical, h.type]
      simp only [Option.map_some, Json.canonical]
    rw [Json.canonical, decodeNode_object htype]
    exact hobject fields h
  | @array arguments h =>
    have hkind : decodeKind nested (.string kind.tag) = .ok kind := by
      simp only [decodeKind, ofTag?_tag]
    have hfew : noMore kind (readAll (Json.canonicalItems arguments)) = .ok () := by
      have hle := h.length_le
      rw [noMore, if_neg]
      rw [readAll_canonicalItems, List.length_map]
      omega
    simp only [Json.canonical, Json.canonicalItems, decodeNode]
    refine bind_eq_ok_iff.2 ⟨kind, hkind, ?_⟩
    exact bind_eq_ok_iff.2 ⟨node, harray arguments h, bind_eq_ok_iff.2 ⟨(), hfew, rfl⟩⟩

end Slot

theorem describes_flagSlot (key : String) (flag : Bool) :
    (flagSlot key flag).Describes Reading.flag (some false) flag := by
  constructor
  · rintro _ rfl
    simp only [Json.canonical, Reading.flag, readingOf, decodeFlag]
  · intro homitted
    exact congrArg some homitted.symm

theorem describes_quote {quote : Option Char} (h : IsQuote quote) :
    Slot.Describes ⟨"rightIsQuoted", QuoteSpelledBy quote, quote = none⟩ Reading.quote (some none)
      quote := by
  constructor
  · intro value hvalue
    rcases h with rfl | rfl | rfl
    · rcases hvalue with rfl | rfl | rfl <;> rfl
    · rcases hvalue with rfl | ⟨-, rfl⟩ <;> rfl
    · rcases hvalue with rfl | ⟨hquote, -⟩
      · rfl
      · cases hquote
  · intro homitted
    exact congrArg some homitted.symm

section Nodes

variable {Lists : List Json → Prop} {nodes : List Node}

theorem decodeNodes_of_admits {key : String} {omissible : Prop}
    (h : ∀ items, Lists items → decodeAll (Json.canonicalItems items) = .ok nodes) (value : Json)
    (hvalue : (nodesSlot key Lists omissible).Admits value) :
    (readingOf value.canonical).nodes = .ok nodes := by
  obtain ⟨items, rfl, hitems⟩ := hvalue
  rw [readingOf, Json.canonical, decodeNodes]
  exact h items hitems

theorem describes_required (key : String)
    (h : ∀ items, Lists items → decodeAll (Json.canonicalItems items) = .ok nodes) :
    (nodesSlot key Lists False).Describes Reading.nodes none nodes :=
  ⟨decodeNodes_of_admits h, nofun⟩

theorem describes_defaulted (key : String)
    (h : ∀ items, Lists items → decodeAll (Json.canonicalItems items) = .ok nodes) :
    (nodesSlot key Lists (nodes = [])).Describes Reading.nodes (some []) nodes :=
  ⟨decodeNodes_of_admits h, fun homitted => congrArg some homitted.symm⟩

end Nodes

mutual
theorem decodeNode_of_spelledBy (nested : Bool) (node : Node) (hquotes : node.WellQuoted)
    (document : Json) (h : node.SpelledBy document) :
    decodeNode nested document.canonical = .ok node := by
  match node with
  | .program body =>
    rw [Node.WellQuoted] at hquotes
    rw [Node.SpelledBy] at h
    have hbody := describes_required "body" (decodeAll_of_eachSpelledBy body hquotes)
    refine decodeNode_of_written h rfl (fun fields hfields => ?_) fun arguments harguments => ?_
    · exact bind_eq_ok_iff.2 ⟨_, hfields.required 0 rfl hbody, rfl⟩
    · exact map_eq_ok_iff.2 ⟨_, harguments.first rfl hbody, rfl⟩
  | .explicitExpression values | .expression values | .indexExpression values =>
    rw [Node.WellQuoted] at hquotes
    rw [Node.SpelledBy] at h
    have hvalues := describes_required "values" (decodeAll_of_eachSpelledBy values hquotes)
    refine decodeNode_of_written h rfl (fun fields hfields => ?_) fun arguments harguments => ?_
    · exact bind_eq_ok_iff.2 ⟨_, hfields.required 0 rfl hvalues, rfl⟩
    · exact map_eq_ok_iff.2 ⟨_, harguments.first rfl hvalues, rfl⟩
  | .markup name attributes values isVoid voidClosed =>
    rw [Node.WellQuoted] at hquotes
    rw [Node.SpelledBy] at h
    obtain ⟨hqname, hqattributes, hqvalues⟩ := hquotes
    have hname : Slot.Describes ⟨"name", name.SpelledBy, False⟩ Reading.tagName none name :=
      ⟨decodeTagName_of_spelledBy name hqname, nofun⟩
    have hattributes :=
      describes_defaulted "attributes" (decodeAll_of_eachSpelledBy attributes hqattributes)
    have hvalues := describes_defaulted "values" (decodeAll_of_eachSpelledBy values hqvalues)
    have hisVoid := describes_flagSlot "isVoid" isVoid
    have hvoidClosed := describes_flagSlot "voidClosed" voidClosed
    refine decodeNode_of_written h rfl (fun fields hfields => ?_) fun arguments harguments => ?_
    · obtain ⟨_, hattributes, rfl⟩ := hfields.defaulted 1 rfl hattributes
      obtain ⟨_, hvalues, rfl⟩ := hfields.defaulted 2 rfl hvalues
      obtain ⟨_, hisVoid, rfl⟩ := hfields.defaulted 3 rfl hisVoid
      obtain ⟨_, hvoidClosed, rfl⟩ := hfields.defaulted 4 rfl hvoidClosed
      refine bind_eq_ok_iff.2 ⟨_, hattributes, bind_eq_ok_iff.2 ⟨_, hisVoid, ?_⟩⟩
      refine bind_eq_ok_iff.2 ⟨_, hfields.required 0 rfl hname, ?_⟩
      exact bind_eq_ok_iff.2 ⟨_, hvalues, bind_eq_ok_iff.2 ⟨_, hvoidClosed, rfl⟩⟩
    · refine bind_eq_ok_iff.2 ⟨_, harguments.first rfl hname, ?_⟩
      refine bind_eq_ok_iff.2 ⟨_, harguments.argument rfl hattributes, ?_⟩
      refine bind_eq_ok_iff.2 ⟨_, harguments.argument rfl hvalues, ?_⟩
      refine bind_eq_ok_iff.2 ⟨_, harguments.argument rfl hisVoid, ?_⟩
      exact bind_eq_ok_iff.2 ⟨_, harguments.argument rfl hvoidClosed, rfl⟩
  | .markupAttribute left right quote =>
    rw [Node.WellQuoted] at hquotes
    rw [Node.SpelledBy] at h
    obtain ⟨hqleft, hqright, hquote⟩ := hquotes
    have hleft := describes_required "left" (decodeAll_of_eachSpelledBy left hqleft)
    have hright := describes_defaulted "right" (decodeAll_of_eachSpelledBy right hqright)
    have hquote := describes_quote hquote
    refine decodeNode_of_written h rfl (fun fields hfields => ?_) fun arguments harguments => ?_
    · obtain ⟨_, hright, rfl⟩ := hfields.defaulted 1 rfl hright
      obtain ⟨_, hquote, rfl⟩ := hfields.defaulted 2 rfl hquote
      refine bind_eq_ok_iff.2 ⟨_, hfields.required 0 rfl hleft, ?_⟩
      exact bind_eq_ok_iff.2 ⟨_, hright, bind_eq_ok_iff.2 ⟨_, hquote, rfl⟩⟩
    · refine bind_eq_ok_iff.2 ⟨_, harguments.first rfl hleft, ?_⟩
      refine bind_eq_ok_iff.2 ⟨_, harguments.argument rfl hright, ?_⟩
      exact bind_eq_ok_iff.2 ⟨_, harguments.argument rfl hquote, rfl⟩
  | .block head values tail =>
    rw [Node.WellQuoted] at hquotes
    rw [Node.SpelledBy] at h
    obtain ⟨hqhead, hqvalues, hqtail⟩ := hquotes
    have hhead := describes_defaulted "head" (decodeAll_of_eachSpelledBy head hqhead)
    have hvalues := describes_defaulted "values" (decodeAll_of_eachSpelledBy values hqvalues)
    have htail := describes_defaulted "tail" (decodeAll_of_eachSpelledBy tail hqtail)
    refine decodeNode_of_written h rfl (fun fields hfields => ?_) fun arguments harguments => ?_
    · obtain ⟨_, hhead, rfl⟩ := hfields.defaulted 0 rfl hhead
      obtain ⟨_, hvalues, rfl⟩ := hfields.defaulted 1 rfl hvalues
      obtain ⟨_, htail, rfl⟩ := hfields.defaulted 2 rfl htail
      refine bind_eq_ok_iff.2 ⟨_, hhead, bind_eq_ok_iff.2 ⟨_, htail, ?_⟩⟩
      exact bind_eq_ok_iff.2 ⟨_, hvalues, rfl⟩
    · refine bind_eq_ok_iff.2 ⟨_, harguments.argument rfl hhead, ?_⟩
      refine bind_eq_ok_iff.2 ⟨_, harguments.argument rfl hvalues, ?_⟩
      exact bind_eq_ok_iff.2 ⟨_, harguments.argument rfl htail, rfl⟩
  | .text value =>
    rw [Node.SpelledBy] at h
    have hvalue : Slot.Describes ⟨"value", (· = .string value), False⟩ Reading.string none value := by
      refine ⟨?_, nofun⟩
      rintro _ rfl
      simp only [Json.canonical, readingOf, Reading.string, decodeString]
    refine decodeNode_of_written h rfl (fun fields hfields => ?_) fun arguments harguments => ?_
    · exact bind_eq_ok_iff.2 ⟨_, hfields.required 0 rfl hvalue, rfl⟩
    · exact map_eq_ok_iff.2 ⟨_, harguments.first rfl hvalue, rfl⟩

theorem decodeTagName_of_spelledBy (name : TagName) (hquotes : name.WellQuoted) (document : Json)
    (h : name.SpelledBy document) : decodeTagName document.canonical = .ok name := by
  match name with
  | .literal name =>
    rw [TagName.SpelledBy] at h
    rw [h]
    simp only [Json.canonical, decodeTagName]
  | .dynamic values =>
    rw [TagName.WellQuoted] at hquotes
    rw [TagName.SpelledBy] at h
    obtain ⟨fields, items, rfl, hvalues, hitems, -⟩ := h
    have hdecoded := decodeAll_of_eachSpelledBy values hquotes items hitems
    rw [Json.canonical, decodeTagName, lookup_readFields, hvalues]
    simp only [Option.map_some, readingOf, Json.canonical, decodeNodes, hdecoded]

theorem decodeAll_of_eachSpelledBy (nodes : List Node) (hquotes : Node.AllWellQuoted nodes)
    (items : List Json) (h : Node.EachSpelledBy nodes items) :
    decodeAll (Json.canonicalItems items) = .ok nodes := by
  match nodes with
  | [] =>
    rw [Node.EachSpelledBy] at h
    rw [h, Json.canonicalItems, decodeAll]
  | node :: rest =>
    rw [Node.AllWellQuoted] at hquotes
    rw [Node.EachSpelledBy] at h
    obtain ⟨item, others, rfl, hnode, hrest⟩ := h
    have hfirst := decodeNode_of_spelledBy true node hquotes.1 item hnode
    have hothers := decodeAll_of_eachSpelledBy rest hquotes.2 others hrest
    rw [Json.canonicalItems, decodeAll, hfirst, hothers]
    rfl
end

end Decode

/-- Whatever mixture of objects and arrays a tree with writable quotes is spelled by, with defaults
left out or not and with other keys or not, the document is decoded to this tree. -/
theorem ofJson_of_spelledBy {tree : Node} (hquotes : tree.WellQuoted) {document : Json}
    (h : tree.SpelledBy document) : Node.ofJson document = .ok tree := by
  have hsteady := Node.steady_of_spelledBy tree document h
  have hdecoded := decodeNode_of_spelledBy false tree hquotes document h
  rw [ofJson_eq, hsteady]
  exact congrArg (Except.mapError Error.malformed) hdecoded

def mixedSpelling : Json :=
  .array [.string "VashProgram", .array [
    .object [("at", .object [("line", .number (.integer 3))]), ("isVoid", .bool true),
      ("name", .object [("values", .array [.array [.string "VashText", .string "tag"]])]),
      ("type", .string "VashMarkup"),
      ("attributes", .array [
        .array [.string "VashMarkupAttribute", .array [], .array [], .bool true]])]]]

def mixedTree : Node :=
  .program [.markup (.dynamic [.text "tag"]) [.markupAttribute [] [] (some '"')] [] true false]

theorem spelledBy_mixedSpelling : mixedTree.SpelledBy mixedSpelling := by
  have htext : (Node.text "tag").SpelledBy (.array [.string "VashText", .string "tag"]) := by
    rw [Node.SpelledBy]
    refine .array ⟨by simp, ?_⟩
    rintro (_ | i) slot hslot <;> cases hslot
    rfl
  have hname : (TagName.dynamic [.text "tag"]).SpelledBy
      (.object [("values", .array [.array [.string "VashText", .string "tag"]])]) := by
    rw [TagName.SpelledBy]
    refine ⟨_, _, rfl, rfl, by simp [Node.EachSpelledBy, htext], fun key value hvalue hkey => ?_⟩
    have hfield := Fields.mem_of_value? hvalue
    simp_all
  have hattribute : (Node.markupAttribute [] [] (some '"')).SpelledBy
      (.array [.string "VashMarkupAttribute", .array [], .array [], .bool true]) := by
    rw [Node.SpelledBy]
    refine .array ⟨by simp, ?_⟩
    rintro (_ | _ | _ | i) slot hslot <;> cases hslot
    · exact ⟨[], rfl, by simp [Node.EachSpelledBy]⟩
    · exact ⟨[], rfl, by simp [Node.EachSpelledBy]⟩
    · exact .inr ⟨rfl, rfl⟩
  rw [mixedTree, Node.SpelledBy]
  refine .array ⟨by simp, ?_⟩
  rintro (_ | i) slot hslot <;> cases hslot
  refine ⟨_, rfl, ?_⟩
  rw [Node.EachSpelledBy]
  refine ⟨_, _, rfl, ?_, by simp [Node.EachSpelledBy]⟩
  rw [Node.SpelledBy]
  refine .object ⟨rfl, ?_, ?_⟩
  · simp only [List.forall_mem_cons]
    exact ⟨hname, ⟨_, rfl, by simp [Node.EachSpelledBy, hattribute]⟩, trivial, rfl, rfl,
      List.forall_mem_nil _⟩
  · intro key value hvalue htype hown
    rcases List.mem_cons.1 (Fields.mem_of_value? hvalue) with hfield | hfield
    · cases hfield
      simp [Typeless, TypelessFields]
    · simp only [List.forall_mem_cons] at hown
      have hkey : key ∈ ["isVoid", "name", "type", "attributes"] :=
        List.mem_map_of_mem (f := Prod.fst) hfield
      simp_all [nodesSlot, flagSlot, eq_comm]

theorem ofJson_mixedSpelling :
    mixedTree.WellQuoted ∧ mixedTree.SpelledBy mixedSpelling ∧
      Node.ofJson mixedSpelling = .ok mixedTree := by
  have hquotes : mixedTree.WellQuoted := by
    simp [mixedTree, Node.WellQuoted, TagName.WellQuoted, Node.AllWellQuoted, IsQuote]
  have hspelled := spelledBy_mixedSpelling
  exact ⟨hquotes, hspelled, ofJson_of_spelledBy hquotes hspelled⟩

end TemplateCode.Tree
