import TemplateCode.Log.Directive

/-! Which records are shown, and in which format. -/

namespace TemplateCode.Log

inductive Format where
  | text
  | tree
  | json
  deriving DecidableEq, Repr

def Format.ofName (name : String) : Format :=
  match String.ofList (name.toList.map Char.toLower) with
  | "tree" => .tree
  | "json" => .json
  | _ => .text

def ownTargets : List String := ["vash_codegen", "vash_cli", "vashc"]

/-- Gives a bare level to each of the program's own targets. A list, or a directive that names a
target, stays as it is. -/
def scopeDirectives (value : String) : String :=
  let value := Text.trim value
  if value.isEmpty || value.toList.any (fun c => c == '=' || c == ',' || c == '[') then value
  else ",".intercalate (ownTargets.map (fun target => target ++ "=" ++ value))

abbrev Filter := List Directive

/-- What the reading of a filter comes to: its directives, the texts that are passed over because
they cannot be read, and whether one that is cut inside a character has ended the reading. -/
structure FilterReading where
  filter : Filter
  ignored : List String
  isBroken : Bool
  deriving DecidableEq, Repr

def FilterReading.ofTexts : List String → FilterReading
  | [] => ⟨[], [], false⟩
  | text :: rest =>
    match Directive.ofText text with
    | .ok directive =>
      let reading := ofTexts rest
      { reading with filter := directive.toList ++ reading.filter }
    | .error .unreadable =>
      let reading := ofTexts rest
      { reading with ignored := text :: reading.ignored }
    | .error .cutCharacter => ⟨[], [], true⟩

def FilterReading.ofText (text : String) : FilterReading :=
  ofTexts (((text.toList.splitOn ',').filter (!·.isEmpty)).map String.ofList)

def ignoredNotice (text : String) : String :=
  "ignoring `" ++ text ++ "`: invalid filter directive\n"

def brokenNotice : String := "error: the log filter cuts a character\n"

def FilterReading.notices (reading : FilterReading) : String :=
  String.join (reading.ignored.map ignoredNotice) ++ (if reading.isBroken then brokenNotice else "")

/-- The most specific of the directives about a record, the latest one of equals. -/
def Filter.directive? (filter : Filter) (record : Record) : Option Directive :=
  filter.foldl (fun best d =>
    if d.concerns record && best.all d.atLeast then some d else best) none

def Filter.admits (filter : Filter) (record : Record) : Bool :=
  match filter.directive? record with
  | some d => record.level.rank ≤ d.rank
  | none => false

structure Request where
  own : Option String
  general : Option String
  format : Option String
  deriving DecidableEq, Repr

/-- The program's own variable wins; without any of the two nothing is shown. -/
def Request.filter (request : Request) : FilterReading :=
  match request.own, request.general with
  | some value, _ => .ofText (scopeDirectives value)
  | none, some value => .ofText value
  | none, none => ⟨[], [], false⟩

def Request.recordLines (request : Request) (filter : Filter) (records : List Record) : String :=
  let format := Format.ofName (request.format.getD "")
  String.join ((records.filter filter.admits).map (fun record =>
    (if format = .json then record.toJson.compact else record.line) ++ "\n"))

end TemplateCode.Log
