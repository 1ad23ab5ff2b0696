import TemplateCode.Json.Printer
import TemplateCode.Tree.Node

/-! Trees as JSON documents, all fields written. -/

namespace TemplateCode.Tree

def quoteJson : Option Char → Json
  | none => .null
  | some q => .string (String.singleton q)

def tagged (kind : Kind) (fields : List (String × Json)) : Json :=
  .object (("type", .string kind.tag) :: fields)

mutual
def Node.toJson : Node → Json
  | .program body => tagged .program [("body", .array (Node.allToJson body))]
  | .explicitExpression values =>
    tagged .explicitExpression [("values", .array (Node.allToJson values))]
  | .expression values => tagged .expression [("values", .array (Node.allToJson values))]
  | .markup name attributes values isVoid voidClosed =>
    tagged .markup [("name", name.toJson), ("attributes", .array (Node.allToJson attributes)),
      ("values", .array (Node.allToJson values)), ("isVoid", .bool isVoid),
      ("voidClosed", .bool voidClosed)]
  | .markupAttribute left right quote =>
    tagged .markupAttribute [("left", .array (Node.allToJson left)),
      ("right", .array (Node.allToJson right)), ("rightIsQuoted", quoteJson quote)]
  | .block head values tail =>
    tagged .block [("head", .array (Node.allToJson head)),
      ("values", .array (Node.allToJson values)), ("tail", .array (Node.allToJson tail))]
  | .indexExpression values => tagged .indexExpression [("values", .array (Node.allToJson values))]
  | .text value => tagged .text [("value", .string value)]

def TagName.toJson : TagName → Json
  | .literal name => .string name
  | .dynamic values => .object [("values", .array (Node.allToJson values))]

def Node.allToJson : List Node → List Json
  | [] => []
  | node :: rest => node.toJson :: Node.allToJson rest
end

def Node.toText (node : Node) : String := node.toJson.compact

end TemplateCode.Tree
