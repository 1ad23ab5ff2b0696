import TemplateCode.Files.Path

/-! A tree of files, directories, devices and links. A path is walked part by part, from the root if
it begins with a slash, and else from the current directory. The text of a link is walked in the
same way, from the directory that the link is in. -/

namespace TemplateCode.Files

inductive Fault where
  | missing
  | denied
  | alreadyThere
  | notDirectory
  | isDirectory
  | nameTooLong
  | tooManyLinks
  | noSpace
  | noDevice
  | zeroInName
  | notText
  | other (reason : String)
  deriving DecidableEq, Repr

def Fault.message : Fault → String
  | .missing => "No such file or directory (os error 2)"
  | .denied => "Permission denied (os error 13)"
  | .alreadyThere => "File exists (os error 17)"
  | .notDirectory => "Not a directory (os error 20)"
  | .isDirectory => "Is a directory (os error 21)"
  | .nameTooLong => "File name too long (os error 36)"
  | .tooManyLinks => "Too many levels of symbolic links (os error 40)"
  | .noSpace => "No space left on device (os error 28)"
  | .noDevice => "No such device or address (os error 6)"
  | .zeroInName => "file name contained an unexpected NUL byte"
  | .notText => "stream did not contain valid UTF-8"
  | .other reason => reason

def decodeText (bytes : ByteArray) : Except Fault String :=
  match String.fromUTF8? bytes with
  | some text => .ok text
  | none => .error .notText

/-- What standard input is connected to. A file can be opened by a name of standard input again and
again; a pipe gives what it holds once. -/
inductive Stdin where
  | file (content : ByteArray)
  | pipe (content : ByteArray)

def Stdin.bytes (stdin : Stdin) (wasRead : Bool) : ByteArray :=
  match stdin with
  | .file content => content
  | .pipe content => if wasRead then .empty else content

/-- What has a name among the files and is none. The null device keeps nothing and holds nothing; a
full one has no room. There is no terminal, only a name for it. -/
inductive Device where
  | null
  | full
  | terminal
  | input
  | output
  | errors
  deriving DecidableEq, Repr

/-- What is in the way of those who read, of those who write or make something inside, and of those
who only pass. Under a limit, writing goes on for so many bytes and then fails. -/
structure Guard where
  toRead : Option Fault
  toWrite : Option Fault
  toPass : Option Fault
  limit : Option (Nat × Fault)
  deriving DecidableEq, Repr

namespace Guard

def free : Guard := ⟨none, none, none, none⟩

def inherited (outer : Guard) : Guard := { free with limit := outer.limit }

def fill (guard : Guard) (bytes : ByteArray) : ByteArray × Except Fault Unit :=
  match guard.limit with
  | none => (bytes, .ok ())
  | some (most, fault) =>
    if bytes.size ≤ most then (bytes, .ok ()) else (bytes.extract 0 most, .error fault)

end Guard

def allow : Option Fault → Except Fault Unit
  | none => .ok ()
  | some fault => .error fault

abbrev Place := List String

inductive Entry where
  | file (guard : Guard) (content : ByteArray)
  | directory (guard : Guard) (inside : List (String × Entry))
  | device (guard : Guard) (device : Device)
  | link (target : Path)

namespace Entry

def child? (entry : Entry) (name : String) : Option Entry :=
  match entry with
  | .directory _ inside => inside.lookup name
  | _ => none

def find? (entry : Entry) : Place → Option Entry
  | [] => some entry
  | name :: rest => (entry.child? name).bind (·.find? rest)

def put (entry new : Entry) : Place → Entry
  | [] => new
  | name :: rest =>
    match entry with
    | .directory guard inside =>
      let changed := ((inside.lookup name).getD (.directory .free [])).put new rest
      .directory guard ((name, changed) :: inside.filter (fun e => e.1 != name))
    | entry => entry

mutual

def files : Entry → List (Place × ByteArray)
  | .file _ content => [([], content)]
  | .directory _ inside => filesIn inside
  | .device .. | .link _ => []

def filesIn : List (String × Entry) → List (Place × ByteArray)
  | [] => []
  | (name, entry) :: rest =>
    entry.files.map (fun (place, content) => (name :: place, content)) ++ filesIn rest

end

end Entry

structure Disk where
  root : Entry
  current : Place

namespace Disk

def numberedStreams : List (String × Entry) :=
  [("0", .device .free .input), ("1", .device .free .output), ("2", .device .free .errors)]

/-- A directory in which nothing can be made. The system says that it would not be there. -/
def closed (inside : List (String × Entry)) : Entry :=
  .directory { Guard.free with toWrite := some .missing } inside

def devices : List (String × Entry) :=
  [("null", .device .free .null), ("full", .device .free .full), ("tty", .device .free .terminal),
    ("stdin", .device .free .input), ("stdout", .device .free .output),
    ("stderr", .device .free .errors), ("fd", .link ⟨"/proc/self/fd"⟩), ("pts", closed []),
    ("shm", .directory .free [])]

/-- Files that every system has. What they hold differs and is left out. -/
def unknownFiles (names : List String) : List (String × Entry) :=
  names.map (fun name => (name, .file .free .empty))

def processEntries (current : Path) : List (String × Entry) :=
  ("self", closed
    ([("fd", closed numberedStreams), ("cwd", .link current), ("root", .link ⟨"/"⟩)] ++
      unknownFiles ["cmdline", "comm", "environ", "maps", "stat", "status"])) ::
  unknownFiles ["cpuinfo", "meminfo", "stat", "uptime", "version"]

/-- An empty current directory among the temporary files of a system. Its name is a zero, which no
path that is asked for can hold; only the link to the current directory does. -/
def fresh : Disk where
  current := ["tmp", "\x00"]
  root := .directory .free <|
    [("dev", .directory .free devices), ("proc", closed (processEntries ⟨"/tmp/\x00"⟩)),
      ("tmp", .directory .free [("\x00", .directory .free [])]),
      ("etc", .directory .free (unknownFiles ["group", "hostname", "hosts", "passwd"]))] ++
    ["bin", "boot", "home", "lib", "media", "mnt", "opt", "root", "run", "sbin", "srv", "sys",
      "usr", "var"].map (fun name => (name, .directory .free []))

def find? (disk : Disk) (place : Place) : Option Entry := disk.root.find? place

def put (disk : Disk) (place : Place) (entry : Entry) : Disk :=
  { disk with root := disk.root.put entry place }

def link? (disk : Disk) (place : Place) : Option Path :=
  match disk.find? place with
  | some (.link target) => some target
  | _ => none

def directory (disk : Disk) (place : Place) : Except Fault Guard :=
  match disk.find? place with
  | none => .error .missing
  | some (.directory guard _) => .ok guard
  | some _ => .error .notDirectory

inductive Turn where
  | step (place : Place)
  | along (start : Place) (parts : List String)

def turn (disk : Disk) (place : Place) (part : String) : Turn :=
  if part = "" ∨ part = "." then .step place
  else if part = ".." then .step place.dropLast
  else match disk.link? (place ++ [part]) with
    | some target => .along (if target.fromRoot then [] else place) target.parts
    | none => .step (place ++ [part])

/-- Whether a directory lets a part of a path pass. Nobody passes by an empty part, which only says
that there is a directory. A name has at most 255 bytes, and no slash behind it if it is to be that
of a file. -/
def pass (guard : Guard) (part : String) (isSlashed : Bool) : Except Fault Unit := do
  if part = "" then return
  allow guard.toPass
  if part = "." ∨ part = ".." then return
  if isSlashed then throw .isDirectory
  if 255 < part.utf8ByteSize then throw .nameTooLong

def enter (disk : Disk) (place : Place) (part : String) (isSlashed : Bool) : Except Fault Turn := do
  let guard ← disk.directory place
  pass guard part isSlashed
  return disk.turn place part

def onlySlashes (rest : List String) : Bool := !rest.isEmpty && rest.all (· = "")

/-- The place at the end of a walk along parts of a path; what is before it must be there. A path
that is to be that of a file has no slash at its end, and neither has a link that it ends in. -/
def walkWith (disk : Disk) (toFile : Bool) (follow : Place → List String → Except Fault Place)
    (place : Place) : List String → Except Fault Place
  | [] => .ok place
  | part :: rest => do
    match ← disk.enter place part (toFile && onlySlashes rest) with
    | .step next => disk.walkWith toFile follow next rest
    | .along start parts => follow start (parts ++ rest)

def walk (disk : Disk) (toFile : Bool) : Nat → Place → List String → Except Fault Place
  | 0 => disk.walkWith toFile (fun _ _ => .error .tooManyLinks)
  | links + 1 => disk.walkWith toFile (disk.walk toFile links)

def start (disk : Disk) (path : Path) : Place := if path.fromRoot then [] else disk.current

def checkName (path : Path) : Except Fault Unit :=
  if path.text.isEmpty then .error .missing
  else if path.text.toList.contains '\x00' then .error .zeroInName
  else if 4096 ≤ path.text.utf8ByteSize then .error .nameTooLong
  else .ok ()

def resolve (disk : Disk) (toFile : Bool) (path : Path) (parts : List String) :
    Except Fault Place := do
  checkName path
  disk.walk toFile 40 (disk.start path) parts

def lookUp (disk : Disk) (path : Path) : Except Fault (Option Entry) := do
  return disk.find? (← disk.resolve false path path.parts)

def isStdin (disk : Disk) (path : Path) : Bool :=
  match disk.lookUp path with
  | .ok (some (.device _ .input)) => true
  | _ => false

def readBytes (disk : Disk) (stdin : Stdin) (earlier : List Path) (path : Path) :
    Except Fault ByteArray := do
  match ← disk.lookUp path with
  | none => throw .missing
  | some (.directory guard _) =>
    allow guard.toRead
    throw .isDirectory
  | some (.file guard content) =>
    allow guard.toRead
    return content
  | some (.device guard device) =>
    allow guard.toRead
    match device with
    | .input => return stdin.bytes (earlier.any disk.isStdin)
    | .terminal => throw .noDevice
    | .null | .full | .output | .errors => return .empty
  | some (.link _) => throw .tooManyLinks

def readText (disk : Disk) (stdin : Stdin) (earlier : List Path) (path : Path) :
    Except Fault String := do
  decodeText (← disk.readBytes stdin earlier path)

def stdinText (disk : Disk) (stdin : Stdin) (earlier : List Path) : Except Fault String :=
  decodeText (stdin.bytes (earlier.any disk.isStdin))

def isDirectory (disk : Disk) (path : Path) : Bool :=
  match disk.lookUp path with
  | .ok (some (.directory ..)) => true
  | _ => false

def room (disk : Disk) (place : Place) : Except Fault Guard := do
  let outer ← disk.directory place.dropLast
  allow outer.toWrite
  return outer.inherited

inductive Target where
  | file (place : Place) (guard : Guard)
  | device (device : Device)
  deriving DecidableEq, Repr

/-- What a path leads a writer to. Through a link, a file can be made where the link leads. -/
def target (disk : Disk) (path : Path) : Except Fault Target := do
  let place ← disk.resolve true path path.parts
  match disk.find? place with
  | none => return .file place (← disk.room place)
  | some (.directory ..) => throw .isDirectory
  | some (.file guard _) =>
    allow guard.toWrite
    return .file place guard
  | some (.device guard device) =>
    allow guard.toWrite
    if device = .terminal then throw .noDevice
    return .device device
  | some (.link _) => throw .tooManyLinks

/-- The disk with bytes in a file, as many as go in. What the file held is lost in any case. -/
def store (disk : Disk) (place : Place) (guard : Guard) (bytes : ByteArray) :
    Disk × Except Fault Unit :=
  let (kept, result) := guard.fill bytes
  (disk.put place (.file guard kept), result)

def write (disk : Disk) (path : Path) (bytes : ByteArray) : Except Fault Disk := do
  match ← disk.target path with
  | .device _ => return disk
  | .file place guard =>
    let (next, result) := disk.store place guard bytes
    result
    return next

def targetParts (path : Path) : List String :=
  (path.parts.reverse.dropWhile (· = "")).reverse

/-- Makes one directory. A link at the end of the path is not followed, wherever it leads: its name
is taken. -/
def makeDirectory (disk : Disk) (path : Path) : Except Fault Disk := do
  let parts := targetParts path
  let outer ← disk.resolve false path parts.dropLast
  match parts.getLast? with
  | none => throw .alreadyThere
  | some name =>
    match ← disk.enter outer name false with
    | .along .. => throw .alreadyThere
    | .step place =>
      if (disk.find? place).isSome then throw .alreadyThere
      return disk.put place (.directory (← disk.room place) [])

/-- Makes the first directory of a line, each one inside the next, and those around it that are
missing. A directory that is there already is fine. What has been made stays if a later one fails.
-/
def makeLine (disk : Disk) : List Path → Disk × Except Fault Unit
  | [] => (disk, .ok ())
  | path :: outer =>
    match disk.makeDirectory path with
    | .ok made => (made, .ok ())
    | .error .missing =>
      match disk.makeLine outer with
      | (made, .ok ()) =>
        match made.makeDirectory path with
        | .ok all => (all, .ok ())
        | .error fault => (made, if made.isDirectory path then .ok () else .error fault)
      | failed => failed
    | .error fault => (disk, if disk.isDirectory path then .ok () else .error fault)

def makeDirectories (disk : Disk) (path : Path) : Disk × Except Fault Unit :=
  if path.text.isEmpty then (disk, .ok ()) else disk.makeLine (path :: path.ancestors)

def files (disk : Disk) : List (Place × ByteArray) :=
  ((disk.find? disk.current).map Entry.files).getD []

end Disk

end TemplateCode.Files
