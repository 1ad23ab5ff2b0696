import TemplateCode.Script.Lexical

/-! The options that shape a render function. -/

namespace TemplateCode

structure Options where
  debug : Bool
  useWith : Bool
  asHelper : Bool
  simple : Bool
  htmlEscape : Bool
  helpersName : String
  modelName : String
  source : Option String
  deriving DecidableEq, Repr

namespace Options

def default : Options :=
  ⟨false, false, false, false, true, "html", "model", none⟩

instance : Inhabited Options := ⟨default⟩

/-- One choice that a caller makes. Asking for debug output brings the template's text along. -/
inductive Choice where
  | debug (source : String)
  | useWith (value : Bool)
  | asHelper (value : Bool)
  | simple (value : Bool)
  | htmlEscape (value : Bool)
  | helpersName (name : String)
  | modelName (name : String)

def choose (o : Options) : Choice → Options
  | .debug source => { o with debug := true, source := some source }
  | .useWith value => { o with useWith := value }
  | .asHelper value => { o with asHelper := value }
  | .simple value => { o with simple := value }
  | .htmlEscape value => { o with htmlEscape := value }
  | .helpersName name => { o with helpersName := name }
  | .modelName name => { o with modelName := name }

inductive NameOption where
  | helpersName
  | modelName
  deriving DecidableEq, Repr

def NameOption.text : NameOption → String
  | .helpersName => "helpersName"
  | .modelName => "modelName"

inductive Error where
  | invalidIdentifier (option : NameOption) (value : String)
  | missingSource
  deriving DecidableEq, Repr

def Error.message : Error → String
  | .invalidIdentifier option value =>
    "option " ++ option.text ++ " is not a valid identifier: '" ++ value ++ "'"
  | .missingSource => "debug output requires the original template source"

def validate (o : Options) : Except Error Unit :=
  if !Script.isIdentifier o.helpersName then
    .error (.invalidIdentifier .helpersName o.helpersName)
  else if !Script.isIdentifier o.modelName then
    .error (.invalidIdentifier .modelName o.modelName)
  else if o.debug && o.source.isNone then
    .error .missingSource
  else .ok ()

end Options

end TemplateCode
