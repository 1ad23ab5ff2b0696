import TemplateCode.Decimal.Shortest

/-! The text of a double: which ones are written positionally, and how an exponent is written. -/

namespace TemplateCode.Decimal

structure Layout where
  least : Int
  greatest : Int

/-- Doubles from `0.00001` up to below `10^16` are written positionally. -/
def Layout.standard : Layout := ⟨-5, 15⟩

def zeros (n : Nat) : String := String.ofList (List.replicate n '0')

def Layout.positional (digits : String) (power : Int) : String :=
  let count : Int := digits.length
  if count - 1 ≤ power then digits ++ zeros (power + 1 - count).toNat ++ ".0"
  else if 0 ≤ power then
    String.ofList (digits.toList.take (power.toNat + 1)) ++ "." ++
      String.ofList (digits.toList.drop (power.toNat + 1))
  else "0." ++ zeros (-power - 1).toNat ++ digits

/-- One digit before the point. An exponent always has its sign and no zeros in front. -/
def Layout.scientific (digits : String) (power : Int) : String :=
  let mantissa :=
    match digits.toList with
    | [] => ""
    | [d] => String.singleton d
    | d :: rest => String.singleton d ++ "." ++ String.ofList rest
  mantissa ++ (if power < 0 then "e-" else "e+") ++ toString power.natAbs

def Layout.text (layout : Layout) (digits : String) (power : Int) : String :=
  if layout.least ≤ power ∧ power ≤ layout.greatest then Layout.positional digits power
  else Layout.scientific digits power

def text (f : Float) : String :=
  let bits := f.toBits.toNat
  let sign := if bits / Nat.pow 2 63 = 1 then "-" else ""
  let exponentBits := bits / Nat.pow 2 52 % Nat.pow 2 11
  let fractionBits := bits % Nat.pow 2 52
  if exponentBits = 0 ∧ fractionBits = 0 then sign ++ "0.0"
  else
    let (digits, power) := (Target.ofBits exponentBits fractionBits).shortest.scientific
    sign ++ Layout.standard.text digits power

end TemplateCode.Decimal
