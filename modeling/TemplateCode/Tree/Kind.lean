/-! The kinds of template nodes and the tags that name them in written trees. -/

namespace TemplateCode.Tree

inductive Kind where
  | program
  | explicitExpression
  | expression
  | markup
  | markupAttribute
  | block
  | indexExpression
  | text
  deriving DecidableEq, Repr

namespace Kind

/-- All kinds; the position of a kind is its index in written trees. -/
def all : List Kind :=
  [.program, .explicitExpression, .expression, .markup, .markupAttribute, .block,
    .indexExpression, .text]

def name : Kind → String
  | .program => "Program"
  | .explicitExpression => "ExplicitExpression"
  | .expression => "Expression"
  | .markup => "Markup"
  | .markupAttribute => "MarkupAttribute"
  | .block => "Block"
  | .indexExpression => "IndexExpression"
  | .text => "Text"

def tag : Kind → String
  | .program => "VashProgram"
  | .explicitExpression => "VashExplicitExpression"
  | .expression => "VashExpression"
  | .markup => "VashMarkup"
  | .markupAttribute => "VashMarkupAttribute"
  | .block => "VashBlock"
  | .indexExpression => "VashIndexExpression"
  | .text => "VashText"

def ofTag? (tag : String) : Option Kind := all.find? (fun kind => kind.tag == tag)

/-- Whether the children of such a node are rendered output rather than program code. -/
def isContent : Kind → Bool
  | .program | .markup | .markupAttribute => true
  | .explicitExpression | .expression | .block | .indexExpression | .text => false

end Kind

end TemplateCode.Tree
