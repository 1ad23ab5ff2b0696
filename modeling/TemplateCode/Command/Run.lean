import TemplateCode.Command.Plan
import TemplateCode.Command.Usage
import TemplateCode.Log.Filter

/-! A run of the command on a disk. -/

namespace TemplateCode.Command

open TemplateCode.Log

structure World where
  disk : Files.Disk
  stdout : String
  stderr : String

/-- A text written to a device. Only the two streams for output keep it. -/
def World.send (w : World) (text : String) : Files.Device → World × Except Files.Fault Unit
  | .output => ({ w with stdout := w.stdout ++ text }, .ok ())
  | .errors => ({ w with stderr := w.stderr ++ text }, .ok ())
  | .full => (w, if text.isEmpty then .ok () else .error .noSpace)
  | .terminal => (w, .error .noDevice)
  | .null | .input => (w, .ok ())

def World.write (w : World) (path : Files.Path) (text : String) :
    World × Except Files.Fault Unit :=
  match w.disk.target path with
  | .error fault => (w, .error fault)
  | .ok (.device device) => w.send text device
  | .ok (.file place guard) =>
    let (disk, result) := w.disk.store place guard text.toUTF8
    ({ w with disk := disk }, result)

def Action.perform (w : World) (action : Action) : World × Except Failure Unit :=
  match action with
  | .makeDirectories path =>
    let (disk, result) := w.disk.makeDirectories path
    ({ w with disk := disk }, attempt action.context .disk result)
  | .write path text =>
    let (next, result) := w.write path text
    (next, attempt action.context .disk result)
  | .print text => ({ w with stdout := w.stdout ++ text }, .ok ())

def performAll (w : World) : List Action → World × Except Failure Unit
  | [] => (w, .ok ())
  | action :: rest =>
    match action.perform w with
    | (next, .ok ()) => performAll next rest
    | failed => failed

structure Run where
  world : World
  result : Except Failure (List Output)
  records : List Record

def run (a : Arguments) (disk : Files.Disk) (stdin : Files.Stdin) : Run :=
  match plan ⟨disk.readText stdin, disk.stdinText stdin⟩ a with
  | (records, .error failure) => ⟨⟨disk, "", ""⟩, .error failure, records⟩
  | (records, .ok plan) =>
    let (world, result) := performAll ⟨disk, "", ""⟩ plan.actions
    ⟨world, result.map (fun _ => plan.outputs), records⟩

structure Report where
  exit : Nat
  stderr : String
  deriving DecidableEq, Repr

/-- The exit code if the log filter cuts a character, or a trail is too deep to be shown. -/
def abortExit : Nat := 101

def reportTrails (color : Bool) : List Output → Report
  | [] => ⟨0, ""⟩
  | output :: rest =>
    match reportTrail? color output.name output.trail with
    | some text =>
      let report := reportTrails color rest
      { report with stderr := text ++ "\n" ++ report.stderr }
    | none => ⟨abortExit, "error: the trail is too deep: " ++ output.name ++ "\n"⟩

def report (a : Arguments) (color : Bool) : Except Failure (List Output) → Report
  | .error failure => ⟨1, failure.report color ++ "\n"⟩
  | .ok outputs => if a.trace then reportTrails color outputs else ⟨0, ""⟩

structure Environment where
  log : Request
  noColor : Option String
  forceColor : Option String
  deriving DecidableEq, Repr

def Environment.usesStyles (environment : Environment) (isTerminal : Bool) : Bool :=
  (environment.noColor.getD "").isEmpty && (isTerminal || environment.forceColor.getD "0" != "0")

structure Outcome where
  exit : Nat
  world : World

/-- An invocation of the command by someone who is no terminal. The log filter is read before the
arguments. On standard error come first the notices about the filter, then the records, then what
the run itself says. -/
def invoke (environment : Environment) (argv : List String) (disk : Files.Disk)
    (stdin : Files.Stdin) : Outcome :=
  let reading := environment.log.filter
  match reading.isBroken, Arguments.parse argv with
  | true, _ => ⟨abortExit, ⟨disk, "", reading.notices⟩⟩
  | false, .error error =>
    let message := error.messageFor (environment.usesStyles false)
    if error.exit = 0 then ⟨0, ⟨disk, message, reading.notices⟩⟩
    else ⟨error.exit, ⟨disk, "", reading.notices ++ message⟩⟩
  | false, .ok a =>
    let run := run a disk stdin
    let report := report a false run.result
    ⟨report.exit, { run.world with
      stderr := reading.notices ++ environment.log.recordLines reading.filter run.records ++
        run.world.stderr ++ report.stderr }⟩

end TemplateCode.Command
