import TemplateCode.Tree.Kind

/-! Template syntax trees. A node does not know its parent; whoever walks a tree passes the
parent's kind along. -/

namespace TemplateCode.Tree

mutual
inductive Node where
  | program (body : List Node)
  | explicitExpression (values : List Node)
  | expression (values : List Node)
  | markup (name : TagName) (attributes values : List Node) (isVoid voidClosed : Bool)
  | markupAttribute (left right : List Node) (quote : Option Char)
  | block (head values tail : List Node)
  | indexExpression (values : List Node)
  | text (value : String)

/-- The name of an element, as written or computed when the template is rendered. -/
inductive TagName where
  | literal (name : String)
  | dynamic (values : List Node)
end

namespace Node

instance : Inhabited Node := ⟨.text ""⟩

def kind : Node → Kind
  | .program _ => .program
  | .explicitExpression _ => .explicitExpression
  | .expression _ => .expression
  | .markup .. => .markup
  | .markupAttribute .. => .markupAttribute
  | .block .. => .block
  | .indexExpression _ => .indexExpression
  | .text _ => .text

end Node

end TemplateCode.Tree
