import TemplateCode.Options.Basic
import TemplateCode.Script.Lexical
import TemplateCode.Tree.Event
import TemplateCode.Tree.Node

/-! The body of a render function, by one walk over the tree. A node under a content parent
becomes push statements, any other node plain code. Every node is noted when it is entered and
when it is left. -/

namespace TemplateCode.Render

open TemplateCode.Tree TemplateCode.Script

structure Walker (σ : Type) where
  depth : Nat
  sink : σ

abbrev Note (σ : Type) := σ → Event → σ

variable {σ : Type}

def visit (note : Note σ) (kind : Kind) (rule : StateM (Walker σ) String) :
    StateM (Walker σ) String := do
  modify fun w => ⟨w.depth + 1, note w.sink ⟨.enter, kind, w.depth⟩⟩
  let out ← rule
  modify fun w => ⟨w.depth - 1, note w.sink ⟨.leave, kind, w.depth - 1⟩⟩
  return out

def isContent (parent : Option Kind) : Bool := parent.any Kind.isContent

/-- The value of an interpolation, passed through the helpers' escaping unless that is switched
off. -/
def escaped (o : Options) (code : String) : String :=
  if o.htmlEscape then o.helpersName ++ ".escape(" ++ code ++ ").toHtmlString()" else code

def explicitExpression (o : Options) (content : Bool) (inner : String) : String :=
  if content then Push.expression ("(" ++ escaped o inner ++ ")") else "(" ++ inner ++ ")"

def expression (o : Options) (content : Bool) (inner : String) : String :=
  if content then Push.expression (escaped o inner) else inner

def openTag (name : String) (attributes : List String) : String :=
  Push.literal "<" ++ name ++
    (if attributes.isEmpty then "" else Push.literal " ") ++
    (Push.literal " ").intercalate attributes

def voidEnd (closed : Bool) : String := Push.literal (if closed then "/>" else ">")

def element (name : String) (attributes : List String) (values : String) : String :=
  openTag name attributes ++ Push.literal ">" ++ values ++ Push.literal "</" ++ name ++
    Push.literal ">"

def attributeValue (quote : Option Char) (right : String) : String :=
  match quote with
  | none => Push.literal "=" ++ right
  | some q =>
    let mark := Literal.encode (String.singleton q)
    Push.literal ("=" ++ mark) ++ right ++ Push.literal mark

def text (content : Bool) (value : String) : String :=
  if content then Push.text value else value

mutual
/-- The code of a node under a parent of the given kind. A void element's values are not visited,
and a computed tag name is visited once though it is written twice. -/
def walk (o : Options) (note : Note σ) (parent : Option Kind) : Node → StateM (Walker σ) String
  | .program body => visit note .program do
    return String.join (← walkAll o note .program body)
  | .explicitExpression values => visit note .explicitExpression do
    let inner ← walkAll o note .explicitExpression values
    return explicitExpression o (isContent parent) (String.join inner)
  | .expression values => visit note .expression do
    let inner ← walkAll o note .expression values
    return expression o (isContent parent) (String.join inner)
  | .markup name attributes values isVoid voidClosed => visit note .markup do
    let name ← walkName o note name
    let attributes ← walkAll o note .markup attributes
    if isVoid then
      return openTag name attributes ++ voidEnd voidClosed
    else
      let values ← walkAll o note .markup values
      return element name attributes (String.join values)
  | .markupAttribute left right quote => visit note .markupAttribute do
    let key ← walkAll o note .markupAttribute left
    if right.isEmpty && quote.isNone then
      return String.join key
    else
      let value ← walkAll o note .markupAttribute right
      return String.join key ++ attributeValue quote (String.join value)
  | .block head values tail => visit note .block do
    let head ← walkAll o note .block head
    let values ← walkAll o note .block values
    let tail ← walkAll o note .block tail
    return String.join head ++ r"{" ++ String.join values ++ r"}" ++ String.join tail
  | .indexExpression values => visit note .indexExpression do
    let inner ← walkAll o note .indexExpression values
    return "[" ++ String.join inner ++ "]"
  | .text value => visit note .text do
    return text (isContent parent) value

def walkName (o : Options) (note : Note σ) : TagName → StateM (Walker σ) String
  | .literal name => return Push.text name
  | .dynamic values => do return String.join (← walkAll o note .markup values)

def walkAll (o : Options) (note : Note σ) (parent : Kind) :
    List Node → StateM (Walker σ) (List String)
  | [] => return []
  | node :: rest => do
    let out ← walk o note (some parent) node
    let outs ← walkAll o note parent rest
    return out :: outs
end

def walkRoot (o : Options) (note : Note σ) (tree : Node) : StateM (Walker σ) String :=
  walk o note none tree

def ignore : Note Unit := fun u _ => u

def record : Note (List Event) := fun events event => event :: events

def body (o : Options) (tree : Node) : String :=
  ((walkRoot o ignore tree).run ⟨0, ()⟩).1

end TemplateCode.Render
