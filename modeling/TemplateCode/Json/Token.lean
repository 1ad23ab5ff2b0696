import TemplateCode.Json.Number

/-! The tokens of a JSON text, found by a machine that takes one character at a time. A text that no
token can go on from ends in a `fault`. -/

namespace TemplateCode.Json

/-- A number too large for a double has no value, nor has a string with an unpaired surrogate. -/
inductive Token where
  | arrayStart
  | arrayEnd
  | objectStart
  | objectEnd
  | comma
  | colon
  | null
  | bool (value : Bool)
  | number (value : Option Number)
  | string (value : Option String)
  | fault

inductive NumeralPart where
  | sign
  | zero
  | whole
  | point
  | fraction
  | mark
  | markSign
  | exponent
  deriving DecidableEq

namespace NumeralPart

def next? (part : NumeralPart) (c : Char) : Option NumeralPart :=
  match part with
  | .sign => if c = '0' then some .zero else if c.isDigit then some .whole else none
  | .zero => if c = '.' then some .point else if Number.isMark c then some .mark else none
  | .whole =>
    if c.isDigit then some .whole
    else if c = '.' then some .point
    else if Number.isMark c then some .mark
    else none
  | .point => if c.isDigit then some .fraction else none
  | .fraction =>
    if c.isDigit then some .fraction else if Number.isMark c then some .mark else none
  | .mark =>
    if c.isDigit then some .exponent else if c = '+' ∨ c = '-' then some .markSign else none
  | .markSign => if c.isDigit then some .exponent else none
  | .exponent => if c.isDigit then some .exponent else none

def complete : NumeralPart → Bool
  | .zero | .whole | .fraction | .exponent => true
  | .sign | .point | .mark | .markSign => false

end NumeralPart

/-- What the machine is inside of. Characters and code units are kept latest first. -/
inductive Mode where
  | between
  | word (rest : List Char) (token : Token)
  | numeral (part : NumeralPart) (chars : List Char)
  | text (units : List Nat)
  | escape (units : List Nat)
  | hex (units : List Nat) (missing value : Nat)
  | stuck

structure Scanner where
  mode : Mode
  tokens : List Token

namespace Scanner

def start : Scanner := ⟨.between, []⟩

def emit (s : Scanner) (token : Token) : Scanner := ⟨.between, token :: s.tokens⟩

def fail (s : Scanner) : Scanner := ⟨.stuck, .fault :: s.tokens⟩

def enter (s : Scanner) (mode : Mode) : Scanner := ⟨mode, s.tokens⟩

def begin (s : Scanner) (c : Char) : Scanner :=
  match c with
  | ' ' | '\t' | '\n' | '\r' => s.enter .between
  | '[' => s.emit .arrayStart
  | ']' => s.emit .arrayEnd
  | '{' => s.emit .objectStart
  | '}' => s.emit .objectEnd
  | ',' => s.emit .comma
  | ':' => s.emit .colon
  | 't' => s.enter (.word ['r', 'u', 'e'] (.bool true))
  | 'f' => s.enter (.word ['a', 'l', 's', 'e'] (.bool false))
  | 'n' => s.enter (.word ['u', 'l', 'l'] .null)
  | '"' => s.enter (.text [])
  | c =>
    match NumeralPart.next? .sign c with
    | some part => s.enter (.numeral part [c])
    | none => if c = '-' then s.enter (.numeral .sign [c]) else s.fail

end Scanner

def isHigh (unit : Nat) : Bool := 0xD800 ≤ unit && unit < 0xDC00

def isLow (unit : Nat) : Bool := 0xDC00 ≤ unit && unit < 0xE000

/-- The characters of a string's code units: a high surrogate and a low one after it are one
character, and neither stands alone. `done` is kept latest first. -/
def decodeUnits (done : List Char) : List Nat → Option (List Char)
  | [] => some done.reverse
  | [u] => if isHigh u || isLow u then none else some (Char.ofNat u :: done).reverse
  | u :: v :: rest =>
    if isHigh u then
      if isLow v then
        decodeUnits (Char.ofNat (0x10000 + (u - 0xD800) * 0x400 + (v - 0xDC00)) :: done) rest
      else none
    else if isLow u then none
    else decodeUnits (Char.ofNat u :: done) (v :: rest)

def escaped? : Char → Option Nat
  | '"' => some 0x22
  | '\\' => some 0x5C
  | '/' => some 0x2F
  | 'b' => some 0x08
  | 'f' => some 0x0C
  | 'n' => some 0x0A
  | 'r' => some 0x0D
  | 't' => some 0x09
  | _ => none

def hexValue? (c : Char) : Option Nat :=
  if c.isDigit then some (c.toNat - '0'.toNat)
  else if 'a' ≤ c ∧ c ≤ 'f' then some (c.toNat - 'a'.toNat + 10)
  else if 'A' ≤ c ∧ c ≤ 'F' then some (c.toNat - 'A'.toNat + 10)
  else none

namespace Scanner

def step (s : Scanner) (c : Char) : Scanner :=
  match s.mode with
  | .stuck => s
  | .between => s.begin c
  | .word [] token => (s.emit token).begin c
  | .word [d] token => if c = d then s.emit token else s.fail
  | .word (d :: rest) token => if c = d then s.enter (.word rest token) else s.fail
  | .numeral part chars =>
    match part.next? c with
    | some next => s.enter (.numeral next (c :: chars))
    | none =>
      if part.complete && !c.isDigit then
        (s.emit (.number (Number.ofNumeral? chars.reverse))).begin c
      else s.fail
  | .text units =>
    if c = '"' then s.emit (.string ((decodeUnits [] units.reverse).map String.ofList))
    else if c = '\\' then s.enter (.escape units)
    else if c.toNat < 0x20 then s.fail
    else s.enter (.text (c.toNat :: units))
  | .escape units =>
    if c = 'u' then s.enter (.hex units 4 0)
    else
      match escaped? c with
      | some unit => s.enter (.text (unit :: units))
      | none => s.fail
  | .hex units missing value =>
    match hexValue? c with
    | none => s.fail
    | some d =>
      if missing ≤ 1 then s.enter (.text ((value * 16 + d) :: units))
      else s.enter (.hex units (missing - 1) (value * 16 + d))

def finish (s : Scanner) : List Token :=
  match s.mode with
  | .between | .stuck => s.tokens.reverse
  | .numeral part chars =>
    if part.complete then
      (s.emit (.number (Number.ofNumeral? chars.reverse))).tokens.reverse
    else s.fail.tokens.reverse
  | .word .. | .text _ | .escape _ | .hex .. => s.fail.tokens.reverse

end Scanner

def tokens (text : List Char) : List Token :=
  (text.foldl Scanner.step Scanner.start).finish

end TemplateCode.Json
