import TemplateCode.Command.Arguments
import TemplateCode.Command.Compile

/-! The plan of a run: everything up to the first change outside. A plan reads and compiles, and
says what is to be written; so a run that fails before it has a plan leaves nothing behind. -/

namespace TemplateCode.Command

open TemplateCode.Log

/-- Where a run reads from. What a file or standard input holds may depend on the files that have
been read before, because they may be one and the same. -/
structure Sources where
  file : List Files.Path → Files.Path → Except Files.Fault String
  stdin : List Files.Path → Except Files.Fault String

inductive Action where
  | makeDirectories (path : Files.Path)
  | write (path : Files.Path) (text : String)
  | print (text : String)
  deriving DecidableEq

def Action.context : Action → String
  | .makeDirectories path => "failed to create directory " ++ path.text
  | .write path _ => "failed to write " ++ path.text
  | .print _ => "failed to print"

structure Plan where
  outputs : List Output
  actions : List Action
  deriving DecidableEq

def Arguments.optionFiles (a : Arguments) : List Files.Path := a.config.toList ++ a.source.toList

def Arguments.files (a : Arguments) : List Files.Path := a.optionFiles ++ a.inputs

/-- The options of a run: defaults, then the options file, then the arguments, then the template. -/
def resolveOptions (s : Sources) (a : Arguments) : Except Failure Options := do
  let base ← match a.config with
    | none => pure Options.default
    | some path => do
      let text ← attempt ("failed to read options: " ++ path.text) .disk (s.file [] path)
      attempt ("failed to parse options: " ++ path.text) .optionsText (Options.ofText text)
  let o := a.apply base
  match a.source with
  | none => return o
  | some path =>
    let text ← attempt ("failed to read template source: " ++ path.text) .disk
      (s.file a.config.toList path)
    return { o with source := some text }

def stdinName : String := "<stdin>"

def readInput (s : Sources) (earlier : List Files.Path) (path : Files.Path) :
    Except Failure Input := do
  let text ← attempt ("failed to read " ++ path.text) .disk (s.file earlier path)
  return ⟨path.text, some path, ← decodeInput path.text text⟩

def readEach (s : Sources) (earlier : List Files.Path) :
    List Files.Path → Except Failure (List Input)
  | [] => .ok []
  | path :: rest => do
    let input ← readInput s earlier path
    return input :: (← readEach s (earlier ++ [path]) rest)

/-- The inputs of a run; without any path, standard input is the only one. -/
def readInputs (s : Sources) (earlier paths : List Files.Path) : Except Failure (List Input) :=
  match paths with
  | [] => do
    let text ← attempt "failed to read syntax tree from stdin" .disk (s.stdin earlier)
    return [⟨stdinName, none, ← decodeInput stdinName text⟩]
  | paths => readEach s earlier paths

def writeActions (path : Files.Path) (text : String) : List Action :=
  match path.parent? with
  | some ⟨""⟩ | none => [.write path text]
  | some parent => [.makeDirectories parent, .write path text]

def outputActions (a : Arguments) (outputs : List Output) : Except Failure (List Action) :=
  match a.outDir, a.out with
  | some directory, _ =>
    .ok (.makeDirectories directory ::
      outputs.flatMap (fun output => writeActions (directory.join output.fileName) output.code))
  | none, some path =>
    .ok ((outputs.take 1).flatMap (fun output => writeActions path output.code))
  | none, none =>
    if 1 < outputs.length then .error ⟨[], .plain "several inputs need --outDir"⟩
    else .ok (outputs.map (fun output => .print output.code))

def prepare (s : Sources) (a : Arguments) : Except Failure (List Input × Options) := do
  if a.out.isSome && 1 < a.inputs.length then
    throw ⟨[], .plain "--out accepts a single input; use --outDir for several"⟩
  let o ← resolveOptions s a
  return (← readInputs s a.optionFiles a.inputs, o)

def plan (s : Sources) (a : Arguments) : List Record × Except Failure Plan :=
  match prepare s a with
  | .error failure => ([], .error failure)
  | .ok (inputs, o) =>
    let (records, compiled) := compile inputs o a.trace
    (records, do
      let outputs ← compiled
      return ⟨outputs, ← outputActions a outputs⟩)

end TemplateCode.Command
