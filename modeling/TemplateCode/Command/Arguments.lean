import TemplateCode.Files.Path
import TemplateCode.Options.Basic

/-! The arguments of the command. Whatever an argument gives is entered when the next one is taken
up, inputs in a row all at once. An option that does not exist, or that is given a value it cannot
have, is reported before that. -/

namespace TemplateCode.Command

inductive Flag where
  | debug
  | useWith
  | asHelper
  | simple
  | noHtmlEscape
  | trace
  deriving DecidableEq, Repr

inductive Parameter where
  | out
  | outDir
  | config
  | source
  | helpersName
  | modelName
  deriving DecidableEq, Repr

inductive Named where
  | flag (flag : Flag)
  | parameter (parameter : Parameter)
  | help
  | version
  deriving DecidableEq, Repr

/-- The options by their long names, the ones with capitals also by names with hyphens. -/
def longNames : List (String × Named) :=
  [("out", .parameter .out), ("outDir", .parameter .outDir), ("out-dir", .parameter .outDir),
    ("config", .parameter .config), ("source", .parameter .source),
    ("helpersName", .parameter .helpersName), ("helpers-name", .parameter .helpersName),
    ("modelName", .parameter .modelName), ("model-name", .parameter .modelName),
    ("debug", .flag .debug), ("useWith", .flag .useWith), ("use-with", .flag .useWith),
    ("asHelper", .flag .asHelper), ("as-helper", .flag .asHelper), ("simple", .flag .simple),
    ("noHtmlEscape", .flag .noHtmlEscape), ("no-html-escape", .flag .noHtmlEscape),
    ("trace", .flag .trace), ("help", .help), ("version", .version)]

def shortNames : List (Char × Named) :=
  [('o', .parameter .out), ('c', .parameter .config), ('h', .help), ('V', .version)]

inductive UsageError where
  | unknownArgument (argument : String)
  | invalidValue
  | tooManyValues (value : String)
  | argumentConflict
  | displayHelp
  | displayVersion
  deriving DecidableEq, Repr

structure Arguments where
  inputs : List Files.Path
  out : Option Files.Path
  outDir : Option Files.Path
  config : Option Files.Path
  source : Option Files.Path
  helpersName : Option String
  modelName : Option String
  debug : Bool
  useWith : Bool
  asHelper : Bool
  simple : Bool
  noHtmlEscape : Bool
  trace : Bool
  deriving DecidableEq, Repr

namespace Arguments

def empty : Arguments :=
  ⟨[], none, none, none, none, none, none, false, false, false, false, false, false⟩

def hasFlag (a : Arguments) : Flag → Bool
  | .debug => a.debug
  | .useWith => a.useWith
  | .asHelper => a.asHelper
  | .simple => a.simple
  | .noHtmlEscape => a.noHtmlEscape
  | .trace => a.trace

def setFlag (a : Arguments) : Flag → Arguments
  | .debug => { a with debug := true }
  | .useWith => { a with useWith := true }
  | .asHelper => { a with asHelper := true }
  | .simple => { a with simple := true }
  | .noHtmlEscape => { a with noHtmlEscape := true }
  | .trace => { a with trace := true }

def hasParameter (a : Arguments) : Parameter → Bool
  | .out => a.out.isSome
  | .outDir => a.outDir.isSome
  | .config => a.config.isSome
  | .source => a.source.isSome
  | .helpersName => a.helpersName.isSome
  | .modelName => a.modelName.isSome

def setParameter (a : Arguments) (value : String) : Parameter → Arguments
  | .out => { a with out := some ⟨value⟩ }
  | .outDir => { a with outDir := some ⟨value⟩ }
  | .config => { a with config := some ⟨value⟩ }
  | .source => { a with source := some ⟨value⟩ }
  | .helpersName => { a with helpersName := some value }
  | .modelName => { a with modelName := some value }

/-- A name may be empty, a path may not. -/
def allows (value : String) : Parameter → Bool
  | .helpersName | .modelName => true
  | .out | .outDir | .config | .source => !value.isEmpty

def enterFlag (a : Arguments) (flag : Flag) : Except UsageError Arguments :=
  if a.hasFlag flag then .error .argumentConflict else .ok (a.setFlag flag)

def enterParameter (a : Arguments) (parameter : Parameter) (value : String) :
    Except UsageError Arguments :=
  if a.hasParameter parameter then .error .argumentConflict
  else if allows value parameter then .ok (a.setParameter value parameter)
  else .error .invalidValue

def enterInputs (a : Arguments) (values : List String) : Except UsageError Arguments :=
  if values.any String.isEmpty then .error .invalidValue
  else .ok { a with inputs := a.inputs ++ values.map Files.Path.mk }

end Arguments

inductive Pending where
  | nothing
  | parameter (parameter : Parameter) (value : Option String)
  | inputs (values : List String)
  deriving DecidableEq, Repr

/-- The arguments as far as they are read; after two hyphens no argument is an option. -/
structure Reading where
  arguments : Arguments
  pending : Pending
  optionsEnded : Bool
  deriving DecidableEq, Repr

namespace Reading

def start : Reading := ⟨.empty, .nothing, false⟩

def settle (r : Reading) : Except UsageError Arguments :=
  match r.pending with
  | .nothing => .ok r.arguments
  | .parameter _ none => .error .invalidValue
  | .parameter parameter (some value) => r.arguments.enterParameter parameter value
  | .inputs values => r.arguments.enterInputs values

def proceed (r : Reading) (pending : Pending)
    (enter : Arguments → Except UsageError Arguments) : Except UsageError Reading := do
  return ⟨← enter (← r.settle), pending, r.optionsEnded⟩

def takeSwitch (r : Reading) (attached : Option String)
    (enter : Arguments → Except UsageError Arguments) : Except UsageError Reading :=
  match attached with
  | some value => .error (.tooManyValues value)
  | none => r.proceed .nothing enter

def takeOption (r : Reading) (attached : Option String) : Named → Except UsageError Reading
  | .parameter parameter =>
    match attached with
    | some value => r.proceed .nothing (·.enterParameter parameter value)
    | none => r.proceed (.parameter parameter none) .ok
  | .flag flag => r.takeSwitch attached (·.enterFlag flag)
  | .help => r.takeSwitch attached (fun _ => .error .displayHelp)
  | .version => r.takeSwitch attached (fun _ => .error .displayVersion)

def takeLong (r : Reading) (text : List Char) : Except UsageError Reading :=
  let name := String.ofList (text.takeWhile (· != '='))
  let attached := match text.dropWhile (· != '=') with
    | [] => none
    | _ :: value => some (String.ofList value)
  match longNames.lookup name with
  | some named => r.takeOption attached named
  | none => .error (.unknownArgument ("--" ++ name))

/-- An option by its letter. A value may follow at once, with or without an equals sign; options
without a value end the reading, so nothing can follow them. -/
def takeShort (r : Reading) (letter : Char) (text : List Char) : Except UsageError Reading :=
  match shortNames.lookup letter with
  | some (.parameter parameter) =>
    let attached := match text with
      | [] => none
      | '=' :: value => some (String.ofList value)
      | value => some (String.ofList value)
    r.takeOption attached (.parameter parameter)
  | some named => r.takeOption none named
  | none => .error (.unknownArgument (String.ofList ['-', letter]))

def takeInput (r : Reading) (argument : String) : Except UsageError Reading :=
  match r.pending with
  | .inputs values => .ok ⟨r.arguments, .inputs (values ++ [argument]), r.optionsEnded⟩
  | _ => r.proceed (.inputs [argument]) .ok

def takeValue (r : Reading) (argument : String) : Except UsageError Reading :=
  match r.pending with
  | .parameter parameter none =>
    .ok ⟨r.arguments, .parameter parameter (some argument), r.optionsEnded⟩
  | _ => r.takeInput argument

def take (r : Reading) (argument : String) : Except UsageError Reading :=
  if r.optionsEnded then r.takeInput argument
  else
    match argument.toList with
    | ['-', '-'] => .ok ⟨r.arguments, r.pending, true⟩
    | '-' :: '-' :: text => r.takeLong text
    | '-' :: letter :: text => r.takeShort letter text
    | _ => r.takeValue argument

end Reading

/-- The arguments of a command line. One output file and an output directory exclude each other. -/
def Arguments.parse (argv : List String) : Except UsageError Arguments := do
  let reading ← argv.foldlM Reading.take Reading.start
  let arguments ← reading.settle
  if arguments.out.isSome && arguments.outDir.isSome then throw .argumentConflict
  return arguments

/-- Flags only switch options on, but the one that switches escaping off; names replace names. -/
def Arguments.apply (a : Arguments) (o : Options) : Options :=
  { o with
    debug := o.debug || a.debug
    useWith := o.useWith || a.useWith
    asHelper := o.asHelper || a.asHelper
    simple := o.simple || a.simple
    htmlEscape := o.htmlEscape && !a.noHtmlEscape
    helpersName := a.helpersName.getD o.helpersName
    modelName := a.modelName.getD o.modelName }

end TemplateCode.Command
