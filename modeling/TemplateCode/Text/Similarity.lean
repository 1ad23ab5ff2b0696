/-! How alike two words are. Characters that are equal and stand at about the same position pair up,
and the words are alike if many pair up, in nearly the same order. -/

namespace TemplateCode.Text

/-- Pairs each character, by its position, with the first free one that equals it and stands no
further than `reach` away; gives the characters that are paired and where their partners stand. -/
def pairUp (reach : Nat) (position : Nat) :
    List Char → List (Char × Nat) → List (Char × Nat)
  | [], _ => []
  | c :: rest, free =>
    match free.find? (fun (d, j) => d == c && position ≤ j + reach && j ≤ position + reach) with
    | none => pairUp reach (position + 1) rest free
    | some partner => partner :: pairUp reach (position + 1) rest (free.erase partner)

def swaps (pairs : List (Char × Nat)) (word : List Char) : Nat :=
  let partners := word.zipIdx.filter (fun d => pairs.contains d)
  (pairs.zip partners).countP (fun (p, d) => p.1 != d.1) / 2

/-- Whether the mean of three shares is above seven tenths: of the first word's characters that are
paired, of the second word's, and of the pairs that keep their order. The shares are rounded as
floating point numbers are, which decides when the mean is seven tenths exactly. -/
def areAlike (first second : String) : Bool :=
  let a := first.length
  let b := second.length
  let pairs := pairUp (max a b / 2 - 1) 0 first.toList second.toList.zipIdx
  let m := pairs.length
  let kept := m - swaps pairs second.toList
  m != 0 && 0.7 < (m.toFloat / a.toFloat + m.toFloat / b.toFloat + kept.toFloat / m.toFloat) / 3.0

end TemplateCode.Text
