/-! The shortest decimal of a double. A double is `m · 2^q`; every real of an interval around it
rounds to it, and the shortest decimal is the nearest one of those in the interval with the fewest
digits. -/

namespace TemplateCode.Decimal

/-- A positive double: the value, the ends of the interval that rounds to it, all over `unit`. -/
structure Target where
  low : Nat
  value : Nat
  high : Nat
  unit : Nat
  closed : Bool

/-- The finite positive double with these exponent and fraction bits. The interval reaches half
way to both neighbours; below a power of two the neighbour is nearer. -/
def Target.ofBits (exponentBits fractionBits : Nat) : Target :=
  let m := if exponentBits = 0 then fractionBits else fractionBits + Nat.pow 2 52
  let q := if exponentBits = 0 then 1 else exponentBits
  let below := if fractionBits = 0 ∧ 1 < exponentBits then 1 else 2
  -- the value is `4 m · 2^(q - 1077)`
  let scale := Nat.pow 2 (q - 1077)
  ⟨(4 * m - below) * scale, 4 * m * scale, (4 * m + 2) * scale, Nat.pow 2 (1077 - q), m % 2 = 0⟩

structure Digits where
  digits : Nat
  exponent : Int

def gridFactors (unit : Nat) (exponent : Int) : Nat × Nat :=
  let power := Nat.pow 10 exponent.natAbs
  if 0 ≤ exponent then (1, unit * power) else (power, unit)

def Target.holds (t : Target) (exponent : Int) (n : Nat) : Bool :=
  let (a, b) := gridFactors t.unit exponent
  if t.closed then t.low * a ≤ n * b && n * b ≤ t.high * a
  else t.low * a < n * b && n * b < t.high * a

/-- The neighbour of the target among the multiples of a power of ten that rounds to it: the
nearer one if both do, the even one if they are equally near. -/
def Target.onGrid? (t : Target) (exponent : Int) : Option Digits :=
  let (a, b) := gridFactors t.unit exponent
  let n := t.value * a / b
  let below := t.holds exponent n
  let above := t.holds exponent (n + 1)
  let toBelow := t.value * a - n * b
  let toAbove := (n + 1) * b - t.value * a
  if below && above then
    if toBelow < toAbove then some ⟨n, exponent⟩
    else if toAbove < toBelow then some ⟨n + 1, exponent⟩
    else if n % 2 = 0 then some ⟨n, exponent⟩
    else some ⟨n + 1, exponent⟩
  else if below then some ⟨n, exponent⟩
  else if above then some ⟨n + 1, exponent⟩
  else none

def Target.magnitude (t : Target) : Int :=
  if t.unit ≤ t.value then ((Nat.toDigits 10 (t.value / t.unit)).length : Int) - 1
  else
    match (List.range 330).find? (fun k => t.unit ≤ t.value * Nat.pow 10 k) with
    | some k => -(k : Int)
    | none => -330

/-- The decimal of the fewest digits; seventeen always suffice. -/
def Target.shortest (t : Target) : Digits :=
  let top := t.magnitude
  ((List.range 17).findSome? (fun (k : Nat) => t.onGrid? (top - k))).getD ⟨t.value / t.unit, 0⟩

def Digits.scientific (d : Digits) : String × Int :=
  let all := Nat.toDigits 10 d.digits
  let significant := (all.reverse.dropWhile (· == '0')).reverse
  (String.ofList significant, d.exponent + all.length - 1)

end TemplateCode.Decimal
