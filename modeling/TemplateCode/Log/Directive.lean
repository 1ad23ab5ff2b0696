import TemplateCode.Log.FieldValue
import TemplateCode.Log.Record
import TemplateCode.Text.Alphanumeric
import TemplateCode.Text.Basic

/-! Directives of a log filter. A directive is a level, a target, or a target and a level with an
equals sign between them. Brackets after the target may name a span, and a field in braces.

The parts of a directive are found in the text without the blanks around it, but they are cut out of
the whole text. So a directive after a blank is cut too early, and means nothing; one that is cut
inside a character cannot be read at all. -/

namespace TemplateCode.Log

/-- Shows the records of a target, and of all targets that begin with it, up to a rank; rank zero
shows none. The empty target is every target's beginning. A field leaves out the records without
it. -/
structure Directive where
  target : String
  field : Option String
  rank : Nat
  deriving DecidableEq, Repr

def fullRank : Nat := 5

def numeral? (digits : List Char) : Option Nat :=
  let digits := match digits with
    | '+' :: rest => rest
    | digits => digits
  if digits.isEmpty || !digits.all Char.isDigit then none
  else some (digits.foldl (fun n c => 10 * n + (c.toNat - '0'.toNat)) 0)

def rank? (level : String) : Option Nat :=
  match String.ofList (level.toList.map Char.toLower) with
  | "off" => some 0
  | "error" => some 1
  | "warn" => some 2
  | "info" => some 3
  | "debug" => some 4
  | "trace" => some 5
  | _ => (numeral? level.toList).filter (· ≤ fullRank)

namespace Directive

inductive Misreading where
  | unreadable
  | cutCharacter
  deriving DecidableEq, Repr

inductive Part where
  | start
  | name
  | span (first : Nat)
  | field (first : Nat)
  | fields
  | bracketed
  | level (first : Nat)
  deriving DecidableEq, Repr

/-- A directive as far as it is read. One that names a span, or a value of a field, is about spans
only. -/
structure Draft where
  part : Part
  target : String
  field : Option String
  spansOnly : Bool
  deriving DecidableEq, Repr

namespace Draft

def start : Draft := ⟨.start, "", none, false⟩

def cut (text : List Char) (first last : Nat) : Except Misreading String :=
  match Text.cut? text first last with
  | some part => .ok (String.ofList part)
  | none => .error .cutCharacter

def beginsName (c : Char) : Bool := c == '-' || c == ':' || c == '_' || Text.isAlphanumeric c

/-- A field by what stands between its braces: a name, or a name and a value after an equals sign.
What follows a second equals sign is left out. -/
def withField (d : Draft) (text : String) : Except Misreading Draft :=
  match text.toList.splitOn '=' with
  | [[]] => .error .unreadable
  | name :: value :: _ =>
    if isFieldValue value then
      .ok { d with part := .fields, field := some (String.ofList name), spansOnly := true }
    else .error .unreadable
  | _ => .ok { d with part := .fields, field := some text }

def step (text : List Char) (d : Draft) (position : Nat) (c : Char) : Except Misreading Draft :=
  match d.part with
  | .start =>
    if c = '[' then .ok { d with part := .span (position + 1) }
    else if beginsName c then .ok { d with part := .name }
    else .error .unreadable
  | .name =>
    if c = '=' then do
      return { d with part := .level (position + 1), target := ← cut text 0 position }
    else if c = '[' then do
      return { d with part := .span (position + 1), target := ← cut text 0 position }
    else .ok d
  | .span first =>
    if c = ']' then do
      let _ ← cut text first position
      return { d with part := .bracketed, spansOnly := true }
    else if c = '{' then do
      let name ← cut text first position
      return { d with part := .field (position + 1), spansOnly := !name.isEmpty }
    else .ok d
  | .field first => if c = '}' then do d.withField (← cut text first position) else .ok d
  | .fields => if c = ']' then .ok { d with part := .bracketed } else .error .unreadable
  | .bracketed =>
    if c = '=' then .ok { d with part := .level (position + 1) } else .error .unreadable
  | .level _ => .ok d

def steps (text : List Char) (d : Draft) (position : Nat) : List Char → Except Misreading Draft
  | [] => .ok d
  | c :: rest => do steps text (← d.step text position c) (position + c.utf8Size) rest

/-- The directive of a text that has been read. Without a level it shows all records; a name that
is a level's is no target. -/
def finish (text : List Char) (d : Draft) : Except Misreading Directive :=
  match d.part with
  | .name =>
    let name := String.ofList text
    .ok (match rank? name with
      | some rank => ⟨"", none, rank⟩
      | none => ⟨name, none, fullRank⟩)
  | .bracketed => .ok ⟨d.target, d.field, fullRank⟩
  | .level first => do
    let level ← cut text first (String.ofList text).utf8ByteSize
    if level.isEmpty then return ⟨d.target, d.field, fullRank⟩
    match rank? level with
    | some rank => return ⟨d.target, d.field, rank⟩
    | none => throw .unreadable
  | .start | .span _ | .field _ | .fields => .error .unreadable

end Draft

def ofText (text : String) : Except Misreading (Option Directive) := do
  let cs := text.toList
  let draft ← Draft.start.steps cs 0 (Text.trim text).toList
  let directive ← draft.finish cs
  return if draft.spansOnly then none else some directive

def concerns (d : Directive) (record : Record) : Bool :=
  d.target.toList.isPrefixOf record.target.toList && d.field.all record.hasField

/-- Whether a directive is as specific as another one: by the length of its target, then by having a
field, then by the order of the fields' names. -/
def atLeast (d other : Directive) : Bool :=
  other.target.length < d.target.length ||
    (d.target.length == other.target.length &&
      match other.field, d.field with
      | none, _ => true
      | some _, none => false
      | some a, some b => !decide (b < a))

end Directive

end TemplateCode.Log
