/-! Paths as texts with slashes. Empty parts and single dots say nothing, except a dot at the very
beginning. -/

namespace TemplateCode.Files

structure Path where
  text : String
  deriving DecidableEq, Repr

namespace Path

/-- The texts between the slashes. A path from the root begins with an empty part. -/
def parts (path : Path) : List String := (path.text.toList.splitOn '/').map String.ofList

def fromRoot (path : Path) : Bool := path.text.toList.head? = some '/'

/-- Leaves out parts at the end that say nothing; the list is in reverse and keeps its first part.
-/
def trimEnd : List String → List String
  | [] => []
  | [first] => [first]
  | part :: rest => if part = "" ∨ part = "." then trimEnd rest else part :: rest

def ofReversed (parts : List String) : Path :=
  if parts = [""] then ⟨"/"⟩ else ⟨"/".intercalate parts.reverse⟩

def parent? (path : Path) : Option Path :=
  match trimEnd path.parts.reverse with
  | [] => none
  | [first] => if first = "" then none else some ⟨""⟩
  | _ :: rest => some (ofReversed (trimEnd rest))

/-- The proper ancestors, the nearest first, without the root and the empty path. The argument is
the path's parts in reverse, the last one taken off. -/
def ancestorsOf : List String → List Path
  | [] => []
  | part :: rest =>
    if part = "" ∨ (part = "." ∧ !rest.isEmpty) then ancestorsOf rest
    else ofReversed (part :: rest) :: ancestorsOf rest

def ancestors (path : Path) : List Path :=
  match trimEnd path.parts.reverse with
  | [] => []
  | _ :: rest => ancestorsOf rest

def fileName? (path : Path) : Option String :=
  match trimEnd path.parts.reverse with
  | [] => none
  | part :: _ => if part = "" ∨ part = "." ∨ part = ".." then none else some part

/-- The file name up to its last dot; a dot that begins the name does not count. -/
def stem? (path : Path) : Option String :=
  path.fileName?.map fun name =>
    match name.toList.reverse.dropWhile (· != '.') with
    | [] => name
    | [_] => name
    | _ :: before => String.ofList before.reverse

def join (directory : Path) (file : String) : Path :=
  if directory.text.isEmpty || directory.text.toList.getLast? = some '/' then
    ⟨directory.text ++ file⟩
  else ⟨directory.text ++ "/" ++ file⟩

end Path

end TemplateCode.Files
