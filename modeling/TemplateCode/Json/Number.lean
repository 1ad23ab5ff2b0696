import TemplateCode.Json.Basic

/-! The value of a written number. A numeral without fraction and exponent that fits 64 bits is an
integer; every other one is a double. A double is the significand, rounded once, times or divided
by a rounded power of ten, so it may lie beside the nearest double of a long numeral. -/

namespace TemplateCode.Json.Number

/-- Digits read so far: their value, and the power of ten that it is to be multiplied by. -/
structure Significand where
  value : Nat
  exponent : Int

def digit (c : Char) : Nat := c.toNat - '0'.toNat

namespace Significand

def fits (s : Significand) (c : Char) : Bool := s.value * 10 + digit c < Nat.pow 2 64

/-- One more whole digit. From the first one that does not fit 64 bits they only raise the
exponent. -/
def addWhole (s : Significand) (c : Char) : Significand :=
  if s.exponent = 0 ∧ s.fits c then ⟨s.value * 10 + digit c, 0⟩ else ⟨s.value, s.exponent + 1⟩

def addFraction (s : Significand) : List Char → Significand
  | [] => s
  | c :: rest =>
    if s.fits c then addFraction ⟨s.value * 10 + digit c, s.exponent - 1⟩ rest else s

end Significand

def tenTo (n : Nat) : Float := Float.ofScientific 1 false n

def scale? (f : Float) (exponent : Int) : Option Float :=
  if exponent < -308 then
    if f == 0 then some f else scale? (f / tenTo 308) (exponent + 308)
  else if 308 < exponent then
    if f == 0 then some f else none
  else if exponent < 0 then
    some (f / tenTo exponent.natAbs)
  else
    let product := f * tenTo exponent.natAbs
    if product.isInf then none else some product
termination_by exponent.natAbs

def double? (negative : Bool) (s : Significand) : Option Number :=
  (scale? (UInt64.ofNat s.value).toFloat s.exponent).map
    (fun f => .double (if negative then -f else f))

/-- A whole numeral. Minus zero, and what 64 bits cannot hold, is a double. -/
def whole? (negative : Bool) (s : Significand) : Option Number :=
  if s.exponent ≠ 0 then double? negative s
  else if !negative then some (.integer s.value)
  else if 0 < s.value ∧ s.value ≤ Nat.pow 2 63 then some (.integer (-(s.value : Int)))
  else double? true s

def natural (digits : List Char) : Nat :=
  digits.foldl (fun n c => n * 10 + digit c) 0

def exponent : List Char → Int
  | '-' :: digits => -(natural digits : Int)
  | '+' :: digits => natural digits
  | digits => natural digits

def isMark (c : Char) : Bool := c == 'e' || c == 'E'

def unsigned? (negative : Bool) (cs : List Char) : Option Number :=
  let s := (cs.takeWhile Char.isDigit).foldl Significand.addWhole ⟨0, 0⟩
  match cs.dropWhile Char.isDigit with
  | [] => whole? negative s
  | c :: rest =>
    if isMark c then double? negative ⟨s.value, s.exponent + exponent rest⟩
    else
      let t := s.addFraction (rest.takeWhile Char.isDigit)
      match rest.dropWhile Char.isDigit with
      | [] => double? negative t
      | _ :: power => double? negative ⟨t.value, t.exponent + exponent power⟩

def ofNumeral? : List Char → Option Number
  | '-' :: cs => unsigned? true cs
  | cs => unsigned? false cs

end TemplateCode.Json.Number
