/-! JSON documents. Objects keep their fields as written: in order, with repetitions. -/

namespace TemplateCode

namespace Fields

variable {α : Type}

def insert (key : String) (value : α) : List (String × α) → List (String × α)
  | [] => [(key, value)]
  | (k, v) :: rest =>
    if key < k then (key, value) :: (k, v) :: rest
    else if key = k then (key, value) :: rest
    else (k, v) :: insert key value rest

def erase (key : String) (fields : List (String × α)) : List (String × α) :=
  fields.filter (fun field => field.1 != key)

/-- The fields in ascending order of their keys, each key once. Of a repeated key the last value
stays. Keys are compared by code points, which is the order of their bytes. -/
def ordered (fields : List (String × α)) : List (String × α) :=
  fields.foldl (fun done field => insert field.1 field.2 done) []

end Fields

namespace Json

inductive Number where
  | integer (value : Int)
  | double (value : Float)

end Json

inductive Json where
  | null
  | bool (value : Bool)
  | number (value : Json.Number)
  | string (value : String)
  | array (items : List Json)
  | object (fields : List (String × Json))

namespace Json

instance : Inhabited Json := ⟨.null⟩

mutual
def canonical : Json → Json
  | .array items => .array (canonicalItems items)
  | .object fields => .object (Fields.ordered (canonicalFields fields))
  | value => value

def canonicalItems : List Json → List Json
  | [] => []
  | item :: rest => canonical item :: canonicalItems rest

def canonicalFields : List (String × Json) → List (String × Json)
  | [] => []
  | (key, value) :: rest => (key, canonical value) :: canonicalFields rest
end

end Json

end TemplateCode
