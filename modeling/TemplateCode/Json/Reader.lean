import TemplateCode.Json.Token

/-! Reading a JSON document from its tokens. The reader keeps the open arrays and objects on a
stack, so how deep a text may nest is a bound on the stack. -/

namespace TemplateCode.Json

/-- An open array or object: what it holds so far, latest first. -/
inductive Frame where
  | array (items : List Json)
  | object (fields : List (String × Json)) (key : String)

inductive Reader where
  | value (stack : List Frame)
  | firstItem (stack : List Frame)
  | firstKey (stack : List Frame)
  | nextKey (fields : List (String × Json)) (stack : List Frame)
  | colon (fields : List (String × Json)) (key : String) (stack : List Frame)
  | afterItem (items : List Json) (stack : List Frame)
  | afterField (fields : List (String × Json)) (stack : List Frame)
  | done (value : Json)
  | refused

namespace Reader

def accept (value : Json) : List Frame → Reader
  | [] => .done value
  | .array items :: stack => .afterItem (value :: items) stack
  | .object fields key :: stack => .afterField ((key, value) :: fields) stack

def beginValue (limit : Option Nat) (stack : List Frame) (token : Token) : Reader :=
  let deeper (next : Reader) : Reader :=
    match limit with
    | some most => if stack.length < most then next else .refused
    | none => next
  match token with
  | .null => accept .null stack
  | .bool b => accept (.bool b) stack
  | .number (some n) => accept (.number n) stack
  | .string (some s) => accept (.string s) stack
  | .arrayStart => deeper (.firstItem stack)
  | .objectStart => deeper (.firstKey stack)
  | _ => .refused

def step (limit : Option Nat) (reader : Reader) (token : Token) : Reader :=
  match reader, token with
  | .value stack, token => beginValue limit stack token
  | .firstItem stack, .arrayEnd => accept (.array []) stack
  | .firstItem stack, token => beginValue limit (.array [] :: stack) token
  | .firstKey stack, .objectEnd => accept (.object []) stack
  | .firstKey stack, .string (some key) => .colon [] key stack
  | .nextKey fields stack, .string (some key) => .colon fields key stack
  | .colon fields key stack, .colon => .value (.object fields key :: stack)
  | .afterItem items stack, .comma => .value (.array items :: stack)
  | .afterItem items stack, .arrayEnd => accept (.array items.reverse) stack
  | .afterField fields stack, .comma => .nextKey fields stack
  | .afterField fields stack, .objectEnd => accept (.object fields.reverse) stack
  | _, _ => .refused

end Reader

def ofTokens? (limit : Option Nat) (tokens : List Token) : Option Json :=
  match tokens.foldl (Reader.step limit) (.value []) with
  | .done value => some value
  | _ => none

def read? (limit : Option Nat) (text : String) : Option Json := ofTokens? limit (tokens text.toList)

def nestingLimit : Nat := 127

def ofText? (text : String) : Option Json := read? (some nestingLimit) text

end TemplateCode.Json
