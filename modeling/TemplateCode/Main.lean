import TemplateCode.Command.Run

/-! The command. It reads the files that its arguments name, plans, and carries the plan out. -/

namespace TemplateCode.Command

open TemplateCode.Log

def faultOf : IO.Error → Files.Fault
  | .noFileOrDirectory .. => .missing
  | .alreadyExists .. => .alreadyThere
  | .inappropriateType _ code _ => if code = 21 then .isDirectory else .notDirectory
  | .permissionDenied _ 13 _ => .denied
  | error => .other (toString error)

def readFile (path : Files.Path) : IO (Except Files.Fault String) := do
  if let .error fault := Files.Disk.checkName path then return .error fault
  try return Files.decodeText (← IO.FS.readBinFile path.text)
  catch error => return .error (faultOf error)

partial def readStream (stream : IO.FS.Stream) (read : ByteArray) : IO ByteArray := do
  let chunk ← stream.read 65536
  if chunk.isEmpty then return read else readStream stream (read ++ chunk)

/-- Standard input itself is read only by a run without input files, after all other files. -/
def readStdin (a : Arguments) : IO (Except Files.Fault String) := do
  if a.inputs.isEmpty then
    try return Files.decodeText (← readStream (← IO.getStdin) .empty)
    catch error => return .error (faultOf error)
  else return .ok ""

def carryOut (action : Action) : IO (Except Failure Unit) := do
  let admitted := match action with
    | .makeDirectories path | .write path _ => Files.Disk.checkName path
    | .print _ => .ok ()
  if let .error fault := admitted then return attempt action.context .disk (.error fault)
  try
    match action with
    | .makeDirectories path => IO.FS.createDirAll path.text
    | .write path text => IO.FS.writeFile path.text text
    | .print text => IO.print text
    return .ok ()
  catch error => return attempt action.context .disk (.error (faultOf error))

def carryOutAll : List Action → IO (Except Failure Unit)
  | [] => return .ok ()
  | action :: rest => do
    match ← carryOut action with
    | .ok () => carryOutAll rest
    | .error failure => return .error failure

def execute (request : Request) (a : Arguments) : IO UInt32 := do
  let files ← a.files.mapM readFile
  let stdin ← readStdin a
  let sources : Sources :=
    ⟨fun earlier _ => files.getD earlier.length (.error .missing), fun _ => stdin⟩
  let (records, planned) := plan sources a
  IO.eprint (request.recordLines request.filter.filter records)
  let result ← match planned with
    | .error failure => pure (.error failure)
    | .ok plan => do
      let done ← carryOutAll plan.actions
      pure (done.map (fun _ => plan.outputs))
  let report := Command.report a (← (← IO.getStderr).isTty) result
  IO.eprint report.stderr
  return report.exit.toUInt32

def start (argv : List String) : IO UInt32 := do
  let request : Request :=
    ⟨← IO.getEnv "VASH_LOG", ← IO.getEnv "RUST_LOG", ← IO.getEnv "VASH_LOG_FORMAT"⟩
  let environment : Environment :=
    ⟨request, ← IO.getEnv "NO_COLOR", ← IO.getEnv "CLICOLOR_FORCE"⟩
  IO.eprint request.filter.notices
  match request.filter.isBroken, Arguments.parse argv with
  | true, _ => return abortExit.toUInt32
  | false, .ok a => execute request a
  | false, .error error =>
    let stream ← if error.exit = 0 then IO.getStdout else IO.getStderr
    stream.putStr (error.messageFor (environment.usesStyles (← stream.isTty)))
    return error.exit.toUInt32

end TemplateCode.Command

def main (argv : List String) : IO UInt32 := TemplateCode.Command.start argv
