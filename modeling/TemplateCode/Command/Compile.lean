import TemplateCode.Command.Failure
import TemplateCode.Files.Path
import TemplateCode.Log.Record
import TemplateCode.Render.Generate
import TemplateCode.Tree.Decode

/-! Compiling a list of trees. A traced run stops at the first tree that fails; any other run
generates all of them and then reports the first failure. -/

namespace TemplateCode.Command

open TemplateCode.Tree TemplateCode.Log

structure Input where
  name : String
  path : Option Files.Path
  tree : Node

/-- The generated source of an input. The trail is empty unless it was asked for. -/
structure Output where
  name : String
  path : Option Files.Path
  code : String
  trail : List Event
  deriving DecidableEq

def outputFile (path : Option Files.Path) : String :=
  (path.bind Files.Path.stem?).getD "template" ++ ".js"

def Output.fileName (output : Output) : String := outputFile output.path

def Input.output (input : Input) (code : String) (trail : List Event) : Output :=
  ⟨input.name, input.path, code, trail⟩

def decodeInput (name text : String) : Except Failure Node :=
  attempt ("failed to decode syntax tree: " ++ name) .tree (Node.ofText text)

def generatedRecord (o : Options) (code : String) : Record :=
  .generated o.asHelper o.debug code.utf8ByteSize

def generateLogged (o : Options) (tree : Node) : List Record × Except Options.Error String :=
  match Render.generateNoting (fun records event => .node event :: records) [] o tree with
  | .ok (code, records) => (records.reverse ++ [generatedRecord o code], .ok code)
  | .error e => ([], .error e)

def inGeneration {α : Type} (input : Input) (result : Except Options.Error α) : Except Failure α :=
  attempt ("failed to generate " ++ input.name) .options result

def compileTraced (o : Options) : List Input → List Record × Except Failure (List Output)
  | [] => ([], .ok [])
  | input :: rest =>
    match inGeneration input (Render.generateTraced o input.tree) with
    | .error failure => ([], .error failure)
    | .ok (code, trail) =>
      let (records, outputs) := compileTraced o rest
      (generatedRecord o code :: records, (input.output code trail :: ·) <$> outputs)

def collect : List (Input × Except Options.Error String) → Except Failure (List Output)
  | [] => .ok []
  | (input, result) :: rest => do
    let code ← inGeneration input result
    let outputs ← collect rest
    return input.output code [] :: outputs

def compileAll (o : Options) (inputs : List Input) : List Record × Except Failure (List Output) :=
  let results := inputs.map (fun input => (input, generateLogged o input.tree))
  (results.flatMap (·.2.1), collect (results.map (fun (input, made) => (input, made.2))))

def compile (inputs : List Input) (o : Options) (traced : Bool) :
    List Record × Except Failure (List Output) :=
  let (records, outputs) := if traced then compileTraced o inputs else compileAll o inputs
  (.compiling inputs.length traced :: records, outputs)

end TemplateCode.Command
