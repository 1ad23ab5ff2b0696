import TemplateCode.Tree.Error

/-! The scan of a document before it is decoded. Every object that has a type must have one of the
known tags, wherever it stands, and the older way to write a computed tag name becomes the one way
that decoding knows. The first fault in pre-order is reported. -/

namespace TemplateCode.Tree

def kindOf (fields : List (String × Json)) : Except Error (Option Kind) :=
  match fields.lookup "type" with
  | none => .ok none
  | some (.string tag) =>
    match Kind.ofTag? tag with
    | some kind => .ok (some kind)
    | none => .error (.unknownKind tag)
  | some found => .error (.malformed (.typeNotString found))

def computedName (node : Json) : Json := .object [("values", .array [node])]

/-- The fields of an element after the scan of each: the node under `expression` becomes the name.
-/
def moveExpression (fields : List (String × Json)) (scanned : List (String × Except Error Json)) :
    Except Error (List (String × Except Error Json)) :=
  match fields.lookup "expression", scanned.lookup "expression" with
  | some (.object _), some node =>
    .ok (Fields.insert "name" (node.map computedName) (Fields.erase "expression" scanned))
  | some .null, _ | none, _ => .ok (Fields.erase "expression" scanned)
  | some found, _ => .error (.malformed (.expressionNotNode found))

def settle : List (String × Except Error Json) → Except Error (List (String × Json))
  | [] => .ok []
  | (key, result) :: rest => do
    let value ← result
    let values ← settle rest
    return (key, value) :: values

mutual
def scan : Json → Except Error Json
  | .array items => do return .array (← scanItems items)
  | .object fields => do
    match ← kindOf fields with
    | some .markup => return .object (← settle (← moveExpression fields (scanFields fields)))
    | _ => return .object (← settle (scanFields fields))
  | value => .ok value

def scanItems : List Json → Except Error (List Json)
  | [] => .ok []
  | item :: rest => do
    let value ← scan item
    let values ← scanItems rest
    return value :: values

def scanFields : List (String × Json) → List (String × Except Error Json)
  | [] => []
  | (key, value) :: rest => (key, scan value) :: scanFields rest
end

end TemplateCode.Tree
