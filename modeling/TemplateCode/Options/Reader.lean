import TemplateCode.Json.Mismatch
import TemplateCode.Json.Reader
import TemplateCode.Options.Basic

/-! Options from a JSON text: an object with some of the options, or an array of the first few of
them. The text is read token by token, so a wrong value is reported even if the text goes on badly
behind it. -/

namespace TemplateCode.Options

inductive Key where
  | debug
  | useWith
  | asHelper
  | simple
  | htmlEscape
  | helpersName
  | modelName
  | source
  deriving DecidableEq, Repr

namespace Key

/-- All keys, in the order in which an array gives their values. -/
def all : List Key :=
  [.debug, .useWith, .asHelper, .simple, .htmlEscape, .helpersName, .modelName, .source]

def name : Key → String
  | .debug => "debug"
  | .useWith => "useWith"
  | .asHelper => "asHelper"
  | .simple => "simple"
  | .htmlEscape => "htmlEscape"
  | .helpersName => "helpersName"
  | .modelName => "modelName"
  | .source => "source"

def ofName? (name : String) : Option Key := all.find? (fun key => key.name == name)

end Key

inductive ReadError where
  | notJson
  | mismatch (mismatch : Json.Mismatch)
  | duplicate (key : Key)

def ReadError.message : ReadError → String
  | .notJson => "<json syntax error>"
  | .mismatch m => m.message
  | .duplicate key => "duplicate field `" ++ key.name ++ "`"

def refusal (token : Json.Token) (wanted : Json.Wanted) : ReadError :=
  match token.shape? with
  | some shape => .mismatch ⟨shape, wanted⟩
  | none => .notJson

def readFlag : Json.Token → Except ReadError Bool
  | .bool b => .ok b
  | token => .error (refusal token .boolean)

def readString : Json.Token → Except ReadError String
  | .string (some s) => .ok s
  | token => .error (refusal token .string)

def readSource : Json.Token → Except ReadError (Option String)
  | .null => .ok none
  | token => some <$> readString token

def assign (o : Options) (token : Json.Token) : Key → Except ReadError Options
  | .debug => (fun b => { o with debug := b }) <$> readFlag token
  | .useWith => (fun b => { o with useWith := b }) <$> readFlag token
  | .asHelper => (fun b => { o with asHelper := b }) <$> readFlag token
  | .simple => (fun b => { o with simple := b }) <$> readFlag token
  | .htmlEscape => (fun b => { o with htmlEscape := b }) <$> readFlag token
  | .helpersName => (fun s => { o with helpersName := s }) <$> readString token
  | .modelName => (fun s => { o with modelName := s }) <$> readString token
  | .source => (fun s => { o with source := s }) <$> readSource token

structure Draft where
  options : Options
  seen : List Key

/-- What the reader waits for. In an array, `keys` are those of the values to come. -/
inductive Reader where
  | start
  | firstItem
  | item (keys : List Key) (o : Options)
  | afterItem (keys : List Key) (o : Options)
  | firstKey
  | nextKey (draft : Draft)
  | colon (key : Option Key) (draft : Draft)
  | value (key : Option Key) (draft : Draft)
  | skipping (inner : Json.Reader) (draft : Draft)
  | afterField (draft : Draft)
  | done (o : Options)
  | failed (error : ReadError)

namespace Reader

def readItem (keys : List Key) (o : Options) (token : Json.Token) : Reader :=
  match keys with
  | [] => .failed .notJson
  | key :: rest =>
    match o.assign token key with
    | .ok o => .afterItem rest o
    | .error e => .failed e

def readKey (name : String) (draft : Draft) : Reader :=
  match Key.ofName? name with
  | none => .colon none draft
  | some key =>
    if draft.seen.contains key then .failed (.duplicate key)
    else .colon (some key) ⟨draft.options, key :: draft.seen⟩

/-- The value of an unknown key need only be written well: a number may be too large and a surrogate
unpaired. -/
def lenient : Json.Token → Json.Token
  | .number none => .null
  | .string none => .string (some "")
  | token => token

def skip (inner : Json.Reader) (draft : Draft) (token : Json.Token) : Reader :=
  match inner.step none (lenient token) with
  | .done _ => .afterField draft
  | .refused => .failed .notJson
  | next => .skipping next draft

def step (reader : Reader) (token : Json.Token) : Reader :=
  match reader, token with
  | .start, .arrayStart => .firstItem
  | .start, .objectStart => .firstKey
  | .start, token => .failed (refusal token .options)
  | .firstItem, .arrayEnd => .done Options.default
  | .firstItem, token => readItem Key.all Options.default token
  | .item keys o, token => readItem keys o token
  | .afterItem keys o, .comma => .item keys o
  | .afterItem _ o, .arrayEnd => .done o
  | .firstKey, .objectEnd => .done Options.default
  | .firstKey, .string (some name) => readKey name ⟨Options.default, []⟩
  | .nextKey draft, .string (some name) => readKey name draft
  | .colon key draft, .colon => .value key draft
  | .value none draft, token => skip (.value []) draft token
  | .value (some key) draft, token =>
    match draft.options.assign token key with
    | .ok o => .afterField ⟨o, draft.seen⟩
    | .error e => .failed e
  | .skipping inner draft, token => skip inner draft token
  | .afterField draft, .comma => .nextKey draft
  | .afterField draft, .objectEnd => .done draft.options
  | .failed e, _ => .failed e
  | _, _ => .failed .notJson

def finish : Reader → Except ReadError Options
  | .done o => .ok o
  | .failed e => .error e
  | _ => .error .notJson

end Reader

def ofText (text : String) : Except ReadError Options :=
  ((Json.tokens text.toList).foldl Reader.step .start).finish

end TemplateCode.Options
