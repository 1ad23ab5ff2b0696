import TemplateCode.Json.Reader
import TemplateCode.Tree.Node
import TemplateCode.Tree.Scan

/-! Decoding a scanned document. A node is an object with a `type`, or an array that begins with a
tag. The fields of an object are decoded in the order of their keys and those of an array in the
order of the array; the first fault is reported. -/

namespace TemplateCode.Tree

def mismatch {α : Type} (value : Json) (wanted : Json.Wanted) : Except Fault α :=
  .error (.mismatch ⟨value.shape, wanted⟩)

def decodeFlag : Json → Except Fault Bool
  | .bool b => .ok b
  | value => mismatch value .boolean

def decodeString : Json → Except Fault String
  | .string s => .ok s
  | value => mismatch value .string

/-- A quote may be written as itself, as a flag that stands for the double one, or be left out. -/
def decodeQuote : Json → Except Fault (Option Char)
  | .null | .bool false => .ok none
  | .bool true => .ok (some '"')
  | .string s =>
    match s.toList with
    | [] => .ok none
    | ['"'] => .ok (some '"')
    | ['\''] => .ok (some '\'')
    | _ => .error (.badQuote s)
  | _ => .error .badQuoteForm

/-- A field's value together with what it is as a list of nodes and as a tag name. -/
structure Reading where
  value : Json
  nodes : Except Fault (List Node)
  tagName : Except Fault TagName

namespace Reading

def flag (r : Reading) : Except Fault Bool := decodeFlag r.value

def string (r : Reading) : Except Fault String := decodeString r.value

def quote (r : Reading) : Except Fault (Option Char) := decodeQuote r.value

end Reading

def optional {α : Type} (decode : Reading → Except Fault α) :
    Option Reading → Except Fault (Option α)
  | none => .ok none
  | some r => some <$> decode r

def required {α : Type} (name : String) : Option α → Except Fault α
  | some a => .ok a
  | none => .error (.missingField name)

def objectNode (kind : Kind) (fields : List (String × Reading)) : Except Fault Node :=
  let nodes (key : String) := optional Reading.nodes (fields.lookup key)
  let flag (key : String) := optional Reading.flag (fields.lookup key)
  match kind with
  | .program => do
    let body ← nodes "body"
    return .program (← required "body" body)
  | .explicitExpression => do
    let values ← nodes "values"
    return .explicitExpression (← required "values" values)
  | .expression => do
    let values ← nodes "values"
    return .expression (← required "values" values)
  | .markup => do
    let attributes ← nodes "attributes"
    let isVoid ← flag "isVoid"
    let name ← optional Reading.tagName (fields.lookup "name")
    let values ← nodes "values"
    let voidClosed ← flag "voidClosed"
    return .markup (← required "name" name) (attributes.getD []) (values.getD [])
      (isVoid.getD false) (voidClosed.getD false)
  | .markupAttribute => do
    let left ← nodes "left"
    let right ← nodes "right"
    let quote ← optional Reading.quote (fields.lookup "rightIsQuoted")
    return .markupAttribute (← required "left" left) (right.getD []) (quote.getD none)
  | .block => do
    let head ← nodes "head"
    let tail ← nodes "tail"
    let values ← nodes "values"
    return .block (head.getD []) (values.getD []) (tail.getD [])
  | .indexExpression => do
    let values ← nodes "values"
    return .indexExpression (← required "values" values)
  | .text => do
    let value ← optional Reading.string (fields.lookup "value")
    return .text (← required "value" value)

def arity : Kind → Nat
  | .program | .explicitExpression | .expression | .indexExpression | .text => 1
  | .markup => 5
  | .markupAttribute | .block => 3

def firstArgument {α : Type} (kind : Kind) (decode : Reading → Except Fault α)
    (arguments : List Reading) : Except Fault α :=
  match arguments with
  | [] => .error (.missingArgument 0 kind (arity kind))
  | r :: _ => decode r

def argument {α : Type} (decode : Reading → Except Fault α) (position : Nat) (default : α)
    (arguments : List Reading) : Except Fault α := do
  return (← optional decode arguments[position]?).getD default

def noMore (kind : Kind) (arguments : List Reading) : Except Fault Unit :=
  if arity kind < arguments.length then .error (.tooManyArguments arguments.length (arity kind))
  else .ok ()

def argumentsNode (kind : Kind) (arguments : List Reading) : Except Fault Node :=
  match kind with
  | .program => .program <$> firstArgument kind Reading.nodes arguments
  | .explicitExpression => .explicitExpression <$> firstArgument kind Reading.nodes arguments
  | .expression => .expression <$> firstArgument kind Reading.nodes arguments
  | .markup => do
    let name ← firstArgument kind Reading.tagName arguments
    let attributes ← argument Reading.nodes 1 [] arguments
    let values ← argument Reading.nodes 2 [] arguments
    let isVoid ← argument Reading.flag 3 false arguments
    let voidClosed ← argument Reading.flag 4 false arguments
    return .markup name attributes values isVoid voidClosed
  | .markupAttribute => do
    let left ← firstArgument kind Reading.nodes arguments
    let right ← argument Reading.nodes 1 [] arguments
    let quote ← argument Reading.quote 2 none arguments
    return .markupAttribute left right quote
  | .block => do
    let head ← argument Reading.nodes 0 [] arguments
    let values ← argument Reading.nodes 1 [] arguments
    let tail ← argument Reading.nodes 2 [] arguments
    return .block head values tail
  | .indexExpression => .indexExpression <$> firstArgument kind Reading.nodes arguments
  | .text => .text <$> firstArgument kind Reading.string arguments

/-- A node written as an array, by the fields after its tag. That there are too many is noticed
last. -/
def arrayNode (kind : Kind) (arguments : List Reading) : Except Fault Node := do
  let node ← argumentsNode kind arguments
  noMore kind arguments
  return node

/-- The kind named by a tag. Below the root a tag may also be the index of a kind. -/
def decodeKind (nested : Bool) : Json → Except Fault Kind
  | .string tag =>
    match Kind.ofTag? tag with
    | some kind => .ok kind
    | none => .error (.unknownTag tag)
  | .number (.integer (.ofNat index)) =>
    if nested then
      match Kind.all[index]? with
      | some kind => .ok kind
      | none => .error (.unknownIndex index)
    else mismatch (.number (.integer index)) .kind
  | value => mismatch value .kind

def typeOf (fields : List (String × Json)) : Except Fault Kind :=
  match fields.lookup "type" with
  | none => .error (.missingField "type")
  | some tag => decodeKind false tag

mutual
def decodeNode (nested : Bool) : Json → Except Fault Node
  | .object fields => do objectNode (← typeOf fields) (readFields fields)
  | .array [] => .error (.missingField "type")
  | .array (tag :: arguments) => do arrayNode (← decodeKind nested tag) (readAll arguments)
  | value => mismatch value .node

def decodeNodes : Json → Except Fault (List Node)
  | .array items => decodeAll items
  | value => mismatch value .sequence

def decodeAll : List Json → Except Fault (List Node)
  | [] => .ok []
  | item :: rest => do
    let node ← decodeNode true item
    let nodes ← decodeAll rest
    return node :: nodes

/-- Whatever is wrong with a tag name, or inside it, is one fault. -/
def decodeTagName : Json → Except Fault TagName
  | .string name => .ok (.literal name)
  | .object fields =>
    match (readFields fields).lookup "values" with
    | some ⟨_, .ok nodes, _⟩ => .ok (.dynamic nodes)
    | _ => .error .badTagName
  | _ => .error .badTagName

def readFields : List (String × Json) → List (String × Reading)
  | [] => []
  | (key, value) :: rest =>
    (key, ⟨value, decodeNodes value, decodeTagName value⟩) :: readFields rest

def readAll : List Json → List Reading
  | [] => []
  | value :: rest => ⟨value, decodeNodes value, decodeTagName value⟩ :: readAll rest
end

def Node.ofJson (document : Json) : Except Error Node := do
  let scanned ← scan document.canonical
  match decodeNode false scanned with
  | .ok node => return node
  | .error fault => throw (.malformed fault)

def Node.ofText (text : String) : Except Error Node :=
  match Json.ofText? text with
  | some document => Node.ofJson document
  | none => .error (.malformed .notJson)

end TemplateCode.Tree
