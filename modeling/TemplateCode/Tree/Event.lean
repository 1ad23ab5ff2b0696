import TemplateCode.Tree.Kind

/-! The trail of a walk over a tree: which node is entered and left, and how deep. -/

namespace TemplateCode.Tree

inductive Phase where
  | enter
  | leave
  deriving DecidableEq, Repr

structure Event where
  phase : Phase
  kind : Kind
  depth : Nat
  deriving DecidableEq, Repr

def Phase.verb : Phase → String
  | .enter => "Entering"
  | .leave => "Leaving"

def indentLimit : Nat := 65535

/-- The blanks before an event, two for each level, counted in a word of 64 bits. -/
def Event.indent (event : Event) : Nat := 2 * event.depth % Nat.pow 2 64

def Event.line? (event : Event) : Option String :=
  if event.indent ≤ indentLimit then
    some (String.ofList (List.replicate event.indent ' ') ++ event.phase.verb ++ " " ++
      event.kind.tag)
  else none

def trailLines? (trail : List Event) : Option (List String) := trail.mapM Event.line?

end TemplateCode.Tree
