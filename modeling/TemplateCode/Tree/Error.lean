import TemplateCode.Json.Mismatch
import TemplateCode.Tree.Kind

/-! Why a document is not a tree, and what is said of it. -/

namespace TemplateCode.Tree

/-- A fault of form. A position counts the fields after the tag of a node written as an array. -/
inductive Fault where
  | notJson
  | typeNotString (found : Json)
  | expressionNotNode (found : Json)
  | mismatch (mismatch : Json.Mismatch)
  | missingField (name : String)
  | unknownTag (tag : String)
  | unknownIndex (index : Nat)
  | missingArgument (position : Nat) (kind : Kind) (wanted : Nat)
  | tooManyArguments (given wanted : Nat)
  | badTagName
  | badQuote (text : String)
  | badQuoteForm

inductive Error where
  | unknownKind (tag : String)
  | malformed (fault : Fault)

def elements (n : Nat) : String := toString n ++ (if n = 1 then " element" else " elements")

def Fault.message : Fault → String
  | .notJson => "<json syntax error>"
  | .typeNotString found => "node type must be a string, found " ++ found.compact
  | .expressionNotNode found => "markup tag expression must be a node, found " ++ found.compact
  | .mismatch m => m.message
  | .missingField name => "missing field `" ++ name ++ "`"
  | .unknownTag tag =>
    "unknown variant `" ++ tag ++ "`, expected one of " ++
      ", ".intercalate (Kind.all.map (fun kind => "`" ++ kind.tag ++ "`"))
  | .unknownIndex index =>
    "invalid value: integer `" ++ toString index ++ "`, expected variant index 0 <= i < 8"
  | .missingArgument position kind wanted =>
    "invalid length " ++ toString position ++ ", expected struct variant Node::" ++ kind.name ++
      " with " ++ elements wanted
  | .tooManyArguments given wanted =>
    "invalid length " ++ toString given ++ ", expected " ++ elements wanted ++ " in sequence"
  | .badTagName => "data did not match any variant of untagged enum TagName"
  | .badQuote text => "invalid attribute quote: '" ++ text ++ "'. Expected '\"' or \"'\""
  | .badQuoteForm => "data did not match any variant of untagged enum QuoteOrFlag"

def Error.message : Error → String
  | .unknownKind tag => "no generation rule for node kind '" ++ tag ++ "'"
  | .malformed fault => "malformed syntax tree: " ++ fault.message

end TemplateCode.Tree
