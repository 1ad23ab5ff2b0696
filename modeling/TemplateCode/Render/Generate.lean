import TemplateCode.Render.Skeleton
import TemplateCode.Render.Walker
import TemplateCode.Script.Condense

/-! The source of a render function: head, body and tail, condensed. -/

namespace TemplateCode.Render

open TemplateCode.Tree

def wrap (o : Options) (body : String) : String :=
  if o.asHelper then helperHead o ++ body ++ helperTail o else head o ++ body ++ tail o

variable {σ : Type}

/-- The source for a tree, with what its walk noted. Options are checked before the walk begins. -/
def generateNoting (note : Note σ) (sink : σ) (o : Options) (tree : Node) :
    Except Options.Error (String × σ) := do
  o.validate
  let (body, walker) := (walkRoot o note tree).run ⟨0, sink⟩
  return (Script.condense (wrap o body), walker.sink)

def generate (o : Options) (tree : Node) : Except Options.Error String :=
  (generateNoting ignore () o tree).map (·.1)

def generateTraced (o : Options) (tree : Node) : Except Options.Error (String × List Event) :=
  (generateNoting record [] o tree).map (fun (code, events) => (code, events.reverse))

end TemplateCode.Render
