import TemplateCode.Json.Printer
import TemplateCode.Tree.Event

/-! What the compiler reports of its work to whoever listens. -/

namespace TemplateCode.Log

inductive Level where
  | error
  | warn
  | info
  | debug
  | trace
  deriving DecidableEq, Repr

namespace Level

def rank : Level → Nat
  | .error => 1
  | .warn => 2
  | .info => 3
  | .debug => 4
  | .trace => 5

def name : Level → String
  | .error => "ERROR"
  | .warn => "WARN"
  | .info => "INFO"
  | .debug => "DEBUG"
  | .trace => "TRACE"

end Level

inductive Record where
  | node (event : Tree.Event)
  | generated (asHelper debug : Bool) (bytes : Nat)
  | compiling (inputs : Nat) (traced : Bool)
  deriving DecidableEq, Repr

namespace Record

def level : Record → Level
  | .node _ => .trace
  | .generated .. | .compiling .. => .debug

def target : Record → String
  | .node _ => "vash_codegen::trace"
  | .generated .. => "vash_codegen"
  | .compiling .. => "vash_cli::driver"

def message : Record → String
  | .node ⟨.enter, _, _⟩ => "entering node"
  | .node ⟨.leave, _, _⟩ => "leaving node"
  | .generated .. => "generated render source"
  | .compiling .. => "compiling templates"

def natural (n : Nat) : Json := .number (.integer n)

def fields : Record → List (String × Json)
  | .node event => [("kind", .string event.kind.tag), ("depth", natural event.depth)]
  | .generated asHelper debug bytes =>
    [("as_helper", .bool asHelper), ("debug", .bool debug), ("len", natural bytes)]
  | .compiling inputs traced => [("inputs", natural inputs), ("trace", .bool traced)]

/-- The message counts as a field. -/
def hasField (record : Record) (name : String) : Bool :=
  name == "message" || record.fields.any (fun field => field.1 == name)

def line (record : Record) : String :=
  record.level.name ++ " " ++ record.target ++ ": " ++ record.message ++
    String.join (record.fields.map (fun (key, value) => " " ++ key ++ "=" ++ value.compact))

def toJson (record : Record) : Json :=
  .object [("level", .string record.level.name),
    ("fields", .object (("message", .string record.message) :: record.fields)),
    ("target", .string record.target)]

end Record

end TemplateCode.Log
