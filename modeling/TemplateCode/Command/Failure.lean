import TemplateCode.Files.Disk
import TemplateCode.Options.Reader
import TemplateCode.Tree.Error
import TemplateCode.Tree.Event

/-! Why a run of the command fails: a cause, and what was being done when it arose. -/

namespace TemplateCode.Command

inductive Cause where
  | tree (error : Tree.Error)
  | options (error : Options.Error)
  | optionsText (error : Options.ReadError)
  | disk (fault : Files.Fault)
  | plain (text : String)

def Cause.message : Cause → String
  | .tree error => error.message
  | .options error => error.message
  | .optionsText error => error.message
  | .disk fault => fault.message
  | .plain text => text

/-- The contexts of a failure, the outermost first. -/
structure Failure where
  contexts : List String
  cause : Cause

def Failure.messages (failure : Failure) : List String :=
  failure.contexts ++ [failure.cause.message]

def attempt {ε α : Type} (context : String) (cause : ε → Cause) :
    Except ε α → Except Failure α
  | .ok a => .ok a
  | .error e => .error ⟨[context], cause e⟩

def reset : String := "\x1b[0m"

/-- A text in a style of the terminal. Where the text itself ends all styles, the style begins
again. -/
def styled (color : Bool) (style text : String) : String :=
  if color then
    let begin := "\x1b[" ++ style ++ "m"
    begin ++ (reset ++ begin).intercalate (text.splitOn reset) ++ reset
  else text

def Failure.report (color : Bool) (failure : Failure) : String :=
  styled color "1;31" "error" ++ ": " ++ "\n  caused by: ".intercalate failure.messages

def reportTrail? (color : Bool) (name : String) (trail : List Tree.Event) : Option String :=
  (Tree.trailLines? trail).map (fun lines =>
    "\n".intercalate (styled color "36" ("trace " ++ name) :: lines))

end TemplateCode.Command
