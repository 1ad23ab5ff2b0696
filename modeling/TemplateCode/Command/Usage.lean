import TemplateCode.Command.Arguments
import TemplateCode.Text.Similarity
import TemplateCode.Text.Terminal

/-! What the command says about its own usage: help, the version, and what is wrong with arguments
that cannot be read. All of it is for a terminal; anyone else gets it plain. -/

namespace TemplateCode.Command

def versionText : String := "vashc 0.1.0\n"

def highlight (style text : String) : String := "\x1b[" ++ style ++ "m" ++ text ++ "\x1b[0m"

def invalid (text : String) : String := highlight "33" text

def valid (text : String) : String := highlight "32" text

def usageText : String := highlight "1;4" "Usage:" ++ " vashc [OPTIONS] [INPUTS]...\n\n"

def helpText : String :=
  "Generate render-function source from vash template syntax trees\n\n" ++ usageText ++
    "  -o, --out <OUT>               write the source to this file instead of stdout\n" ++
    "      --outDir <DIR>            write one <name>.js for each input into this directory\n" ++
    "  -c, --config <CONFIG>         JSON file with options\n" ++
    "      --debug                   report errors against the template source\n" ++
    "      --source <SOURCE>         template file to embed in error reports\n" ++
    "      --useWith                 resolve bare identifiers against the model\n" ++
    "      --asHelper                emit a helper body\n" ++
    "      --simple                  return the joined buffer\n" ++
    "      --noHtmlEscape            do not escape interpolated expressions\n" ++
    "      --helpersName <NAME>      name of the helpers object\n" ++
    "      --modelName <NAME>        name of the model\n" ++
    "      --trace                   print the trail of each tree\n" ++
    "  -h, --help                    print help\n" ++
    "  -V, --version                 print the version\n"

def similarOption? (argument : String) : Option String :=
  match argument.toList with
  | '-' :: '-' :: name =>
    (longNames.find? (fun option => Text.areAlike (String.ofList name) option.1)).map (·.1)
  | _ => none

def unknownArgumentTip (argument : String) : String :=
  match similarOption? argument with
  | some name => "a similar argument exists: '" ++ valid ("--" ++ name) ++ "'"
  | none =>
    "to pass '" ++ invalid argument ++ "' as a value, use '" ++ valid ("-- " ++ argument) ++ "'"

def usageMessage (explanation : String) : String :=
  highlight "1;31" "error:" ++ " " ++ explanation ++ "\n\n" ++ usageText ++
    "For more information, try '" ++ highlight "1" "--help" ++ "'.\n"

def UsageError.message : UsageError → String
  | .unknownArgument argument =>
    usageMessage ("unexpected argument '" ++ invalid argument ++ "' found\n\n  " ++ valid "tip:" ++
      " " ++ unknownArgumentTip argument)
  | .invalidValue => usageMessage "a value is missing or empty"
  | .tooManyValues value => usageMessage ("unexpected value '" ++ invalid value ++ "' for a flag")
  | .argumentConflict => usageMessage "an argument is given twice, or excludes another one"
  | .displayHelp => helpText
  | .displayVersion => versionText

def UsageError.messageFor (error : UsageError) (isStyled : Bool) : String :=
  if isStyled then error.message else Text.Terminal.plain error.message

/-- Asking for help or for the version is no error. -/
def UsageError.exit : UsageError → Nat
  | .displayHelp | .displayVersion => 0
  | .unknownArgument _ | .invalidValue | .tooManyValues _ | .argumentConflict => 2

end TemplateCode.Command
