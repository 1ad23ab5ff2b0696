import TemplateCode.Json.Printer
import TemplateCode.Json.Token
import TemplateCode.Text.Printable

/-! What is said of a JSON value that stands where another sort of value is wanted. -/

namespace TemplateCode.Json

inductive Shape where
  | null
  | boolean (value : Bool)
  | number (value : Number)
  | string (value : String)
  | sequence
  | map

def shape : Json → Shape
  | .null => .null
  | .bool b => .boolean b
  | .number n => .number n
  | .string s => .string s
  | .array _ => .sequence
  | .object _ => .map

def Token.shape? : Token → Option Shape
  | .null => some .null
  | .bool b => some (.boolean b)
  | .number n => n.map .number
  | .string s => s.map .string
  | .arrayStart => some .sequence
  | .objectStart => some .map
  | .arrayEnd | .objectEnd | .comma | .colon | .fault => none

def Shape.describe : Shape → String
  | .null => "null"
  | .boolean true => "boolean `true`"
  | .boolean false => "boolean `false`"
  | .number (.integer value) => "integer `" ++ toString value ++ "`"
  | .number (.double value) => "floating point `" ++ Decimal.text value ++ "`"
  | .string s => "string " ++ Text.quoted s
  | .sequence => "sequence"
  | .map => "map"

inductive Wanted where
  | boolean
  | string
  | sequence
  | node
  | kind
  | options

def Wanted.describe : Wanted → String
  | .boolean => "a boolean"
  | .string => "a string"
  | .sequence => "a sequence"
  | .node => "internally tagged enum Node"
  | .kind => "variant identifier"
  | .options => "struct CodegenOptions"

structure Mismatch where
  found : Shape
  wanted : Wanted

def Mismatch.message (m : Mismatch) : String :=
  "invalid type: " ++ m.found.describe ++ ", expected " ++ m.wanted.describe

end TemplateCode.Json
