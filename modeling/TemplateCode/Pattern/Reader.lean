import TemplateCode.Pattern.Bracket
import TemplateCode.Text.Numeral

/-! Which texts are patterns. Of a pattern that is read only its nesting is kept, because nothing is
ever matched: a pattern is about the values of spans, and there are no spans.

A pattern never holds a closing brace, which would end the field that it stands in. So a count in
braces cannot be completed, nor can a character or a class that is written in braces, and an opening
brace is at fault wherever it does not stand for itself. -/

namespace TemplateCode.Pattern

/-- A part of a sequence: its nesting, and whether it can be repeated. Letters that switch the mode
are a part too, and cannot. -/
structure Piece where
  nesting : Nat
  canRepeat : Bool
  deriving DecidableEq, Repr

structure Sequence where
  alternatives : List Nat
  pieces : List Piece
  deriving DecidableEq, Repr

namespace Sequence

def empty : Sequence := ⟨[], []⟩

def push (s : Sequence) (piece : Piece) : Sequence := { s with pieces := piece :: s.pieces }

def alternate (s : Sequence) : Sequence :=
  ⟨nestingOf (s.pieces.map Piece.nesting) :: s.alternatives, []⟩

def nesting (s : Sequence) : Nat := nestingOf s.alternate.alternatives

def repeatLast? (s : Sequence) : Option Sequence :=
  match s.pieces with
  | [] => none
  | piece :: before =>
    if piece.canRepeat then some { s with pieces := ⟨piece.nesting + 1, true⟩ :: before } else none

end Sequence

/-- What has been read of a pattern: the mode, the innermost sequence, the sequences around it each
with its mode, and the names of groups. -/
structure Draft where
  mode : Mode
  sequence : Sequence
  around : List (Mode × Sequence)
  names : List String
  deriving DecidableEq, Repr

namespace Draft

def start : Draft := ⟨.start, .empty, [], []⟩

def push (d : Draft) (piece : Piece) : Draft := { d with sequence := d.sequence.push piece }

def pushAtom? (d : Draft) (atom : Atom) : Option Draft :=
  if atom.standsAlone d.mode then some (d.push ⟨0, true⟩) else none

def openGroup (d : Draft) (mode : Mode) : Draft :=
  { d with mode := mode, sequence := .empty, around := (d.mode, d.sequence) :: d.around }

def closeGroup? (d : Draft) : Option Draft :=
  match d.around with
  | [] => none
  | (mode, outer) :: around =>
    some { d with
      mode := mode, sequence := outer.push ⟨1 + d.sequence.nesting, true⟩, around := around }

def isGroupName (name : List Char) : Bool :=
  match name with
  | [] => false
  | first :: rest =>
    (first == '_' || Text.isLetter first) &&
      rest.all (fun c => ['_', '.', '[', ']'].contains c || Text.isAlphanumeric c)

def namedGroup? (d : Draft) (cs : List Char) : Option (Draft × List Char) :=
  let name := cs.takeWhile (· != '>')
  match cs.dropWhile (· != '>') with
  | [] => none
  | _ :: rest =>
    if isGroupName name && !d.names.contains (String.ofList name) then
      some ({ d.openGroup d.mode with names := String.ofList name :: d.names }, rest)
    else none

theorem namedGroup?_length_lt {d next : Draft} {cs rest : List Char}
    (h : d.namedGroup? cs = some (next, rest)) : rest.length < cs.length := by
  have := (List.dropWhile_suffix (· != '>') (l := cs)).length_le
  grind [namedGroup?]

/-- Letters that switch the mode, for a group of their own or for the rest of the group that they
stand in. -/
def switches? (d : Draft) (cs : List Char) : Option (Draft × List Char) :=
  match d.mode.read [] cs with
  | none => none
  | some (mode, seen, stop, rest) =>
    if stop = ':' then some (d.openGroup mode, rest)
    else if seen.isEmpty then none
    else some ({ d.push ⟨0, false⟩ with mode := mode }, rest)

theorem switches?_length_lt {d next : Draft} {cs rest : List Char}
    (h : d.switches? cs = some (next, rest)) : rest.length < cs.length := by
  unfold switches? at h
  split at h
  · cases h
  · rename_i read
    have := Mode.read_length_lt read
    grind

def group? (d : Draft) (cs : List Char) : Option (Draft × List Char) :=
  match d.mode.skip cs with
  | '?' :: '=' :: _ | '?' :: '!' :: _ | '?' :: '<' :: '=' :: _ | '?' :: '<' :: '!' :: _ => none
  | '?' :: 'P' :: '<' :: rest => d.namedGroup? rest
  | '?' :: '<' :: rest => d.namedGroup? rest
  | '?' :: rest => d.switches? rest
  | rest => some (d.openGroup d.mode, rest)

theorem group?_length_le {d next : Draft} {cs rest : List Char}
    (h : d.group? cs = some (next, rest)) : rest.length ≤ cs.length := by
  have := d.mode.skip_length_le cs
  unfold group? at h
  split at h
  case h_5 | h_6 =>
    have := namedGroup?_length_lt h
    grind
  case h_7 =>
    have := switches?_length_lt h
    grind
  all_goals grind

def lazily : List Char → List Char
  | '?' :: rest => rest
  | rest => rest

theorem lazily_length_le (cs : List Char) : (lazily cs).length ≤ cs.length := by
  unfold lazily
  split <;> simp

def step? (d : Draft) : List Char → Option (Draft × List Char)
  | [] => none
  | c :: rest =>
    match c with
    | '(' => d.group? rest
    | ')' => d.closeGroup?.map (·, rest)
    | '|' => some ({ d with sequence := d.sequence.alternate }, rest)
    | '[' =>
      match Bracket.class? d.mode rest with
      | none => none
      | some (nesting, rest) => some (d.push ⟨nesting, true⟩, rest)
    | '?' | '*' | '+' =>
      match d.sequence.repeatLast? with
      | none => none
      | some sequence => some ({ d with sequence := sequence }, lazily rest)
    | '{' => none
    | '\\' =>
      match Atom.ofEscape? d.mode rest with
      | none => none
      | some (atom, rest) => (d.pushAtom? atom).map (·, rest)
    | '.' => if d.mode.unicode then some (d.push ⟨0, true⟩, rest) else none
    | '^' | '$' => (d.pushAtom? (.assertion false)).map (·, rest)
    | c => (d.pushAtom? (.literal c false)).map (·, rest)

theorem step?_length_lt {d next : Draft} {cs rest : List Char}
    (h : d.step? cs = some (next, rest)) : rest.length < cs.length := by
  cases cs with
  | nil => simp [step?] at h
  | cons c cs =>
    have grouped (h : d.group? cs = some (next, rest)) := group?_length_le h
    have classed {nesting : Nat} {rest : List Char}
        (h : Bracket.class? d.mode cs = some (nesting, rest)) := Bracket.class?_length_lt h
    have escaped {atom : Atom} {rest : List Char}
        (h : Atom.ofEscape? d.mode cs = some (atom, rest)) := Atom.ofEscape?_length_lt h
    have := lazily_length_le cs
    simp only [step?] at h
    split at h <;> grind [Option.map_eq_some_iff]

def nesting? (d : Draft) (cs : List Char) : Option Nat :=
  match _skipped : d.mode.skip cs with
  | [] => if d.around.isEmpty then some d.sequence.nesting else none
  | next :: after =>
    match _read : d.step? (next :: after) with
    | none => none
    | some (further, rest) => further.nesting? rest
termination_by cs.length
decreasing_by
  have := d.mode.skip_length_le cs
  have := step?_length_lt _read
  grind

end Draft

def nestingLimit : Nat := 250

def isPattern (text : List Char) : Bool :=
  match Draft.start.nesting? text with
  | some nesting => nesting ≤ nestingLimit
  | none => false

end TemplateCode.Pattern
