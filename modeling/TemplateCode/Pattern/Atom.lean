import TemplateCode.Pattern.Mode

/-! The smallest parts of a pattern: characters, classes that a letter stands for, and assertions
about a position. Escapes write them. -/

namespace TemplateCode.Pattern

/-- A character, and whether it is written as a byte; a class of digits, blanks or word characters;
an assertion, and whether it is about words. -/
inductive Atom where
  | literal (c : Char) (isByte : Bool)
  | shorthand (negated : Bool)
  | assertion (ofWords : Bool)
  deriving DecidableEq, Repr

namespace Atom

/-- Whether an atom can stand alone. There are no tables for the case of letters, for the classes of
all scripts, nor for their words. A byte above the first half is no character. -/
def standsAlone (mode : Mode) : Atom → Bool
  | .literal c isByte =>
    if mode.unicode then !mode.ignoreCase else !(isByte && 0x80 ≤ c.toNat)
  | .shorthand negated => !mode.unicode && !negated
  | .assertion ofWords => !(ofWords && mode.unicode)

/-- Whether an atom can stand between brackets. A class of bytes holds no other characters. -/
def standsInBrackets (mode : Mode) : Atom → Bool
  | .literal c _ => if mode.unicode then !mode.ignoreCase else c.toNat < 0x80
  | .shorthand negated => !mode.unicode && !negated
  | .assertion _ => false

def hexValue? (c : Char) : Option Nat :=
  if c.isDigit then some (c.toNat - '0'.toNat)
  else if 'a' ≤ c ∧ c ≤ 'f' then some (c.toNat - 'a'.toNat + 10)
  else if 'A' ≤ c ∧ c ≤ 'F' then some (c.toNat - 'A'.toNat + 10)
  else none

def hexNumber? (mode : Mode) (value : Nat) : Nat → List Char → Option (Nat × List Char)
  | 0, cs => some (value, cs)
  | digits + 1, cs =>
    match mode.skip cs with
    | [] => none
    | c :: rest =>
      match hexValue? c with
      | none => none
      | some digit => hexNumber? mode (16 * value + digit) digits rest

theorem hexNumber?_length_le {mode : Mode} {value digits n : Nat} {cs rest : List Char}
    (h : hexNumber? mode value digits cs = some (n, rest)) : rest.length ≤ cs.length := by
  induction digits generalizing value cs with
  | zero => grind [hexNumber?]
  | succ digits ih =>
    have := mode.skip_length_le cs
    grind [hexNumber?]

def ofHex? (mode : Mode) (isByte : Bool) (digits : Nat) (cs : List Char) :
    Option (Atom × List Char) :=
  match hexNumber? mode 0 digits cs with
  | none => none
  | some (n, rest) =>
    if n.isValidChar then some (.literal (Char.ofNat n) isByte, mode.skip rest) else none

theorem ofHex?_length_le {mode : Mode} {isByte : Bool} {digits : Nat} {cs rest : List Char}
    {atom : Atom} (h : ofHex? mode isByte digits cs = some (atom, rest)) :
    rest.length ≤ cs.length := by
  unfold ofHex? at h
  split at h
  · cases h
  · rename_i n read found
    have := hexNumber?_length_le found
    have := mode.skip_length_le read
    grind

/-- What an escape stands for, given what follows the backslash. A sign that is neither a letter nor
a digit stands for itself. -/
def ofEscape? (mode : Mode) : List Char → Option (Atom × List Char)
  | [] => none
  | c :: rest =>
    match c with
    | 'x' => ofHex? mode true 2 rest
    | 'u' => ofHex? mode false 4 rest
    | 'U' => ofHex? mode false 8 rest
    | 'd' | 's' | 'w' => some (.shorthand false, rest)
    | 'D' | 'S' | 'W' => some (.shorthand true, rest)
    | 'b' | 'B' | '<' | '>' => some (.assertion true, rest)
    | 'A' | 'z' => some (.assertion false, rest)
    | 'a' => some (.literal '\x07' false, rest)
    | 'f' => some (.literal '\x0c' false, rest)
    | 't' => some (.literal '\t' false, rest)
    | 'n' => some (.literal '\n' false, rest)
    | 'r' => some (.literal '\r' false, rest)
    | 'v' => some (.literal '\x0b' false, rest)
    | c => if c.toNat < 0x80 && !c.isAlphanum then some (.literal c false, rest) else none

theorem ofEscape?_length_lt {mode : Mode} {cs rest : List Char} {atom : Atom}
    (h : ofEscape? mode cs = some (atom, rest)) : rest.length < cs.length := by
  cases cs with
  | nil => simp [ofEscape?] at h
  | cons c cs =>
    simp only [ofEscape?] at h
    split at h
    case h_1 | h_2 | h_3 => exact Nat.lt_succ_of_le (ofHex?_length_le h)
    all_goals grind

end Atom

end TemplateCode.Pattern
