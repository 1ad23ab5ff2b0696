/-! Sets of characters, the blank ones among them, and pieces of a text by the bytes of its UTF-8
encoding. -/

namespace TemplateCode.Text

structure Range where
  first : Nat
  last : Nat
  deriving DecidableEq

def Range.holds (r : Range) (c : Char) : Bool := r.first ≤ c.toNat && c.toNat ≤ r.last

def holds (ranges : List Range) (c : Char) : Bool := ranges.any (fun r => r.holds c)

/-- The property `White_Space` of Unicode. -/
def blankRanges : List Range :=
  [⟨0x9, 0xD⟩, ⟨0x20, 0x20⟩, ⟨0x85, 0x85⟩, ⟨0xA0, 0xA0⟩, ⟨0x1680, 0x1680⟩, ⟨0x2000, 0x200A⟩,
    ⟨0x2028, 0x2029⟩, ⟨0x202F, 0x202F⟩, ⟨0x205F, 0x205F⟩, ⟨0x3000, 0x3000⟩]

def isBlank (c : Char) : Bool := holds blankRanges c

def trim (s : String) : String :=
  String.ofList (((s.toList.dropWhile isBlank).reverse.dropWhile isBlank).reverse)

/-! A position inside a character cuts nothing. -/

def dropBytes? (bytes : Nat) : List Char → Option (List Char)
  | [] => if bytes = 0 then some [] else none
  | c :: rest =>
    if bytes = 0 then some (c :: rest)
    else if c.utf8Size ≤ bytes then dropBytes? (bytes - c.utf8Size) rest
    else none

def takeBytes? (bytes : Nat) : List Char → Option (List Char)
  | [] => if bytes = 0 then some [] else none
  | c :: rest =>
    if bytes = 0 then some []
    else if c.utf8Size ≤ bytes then (c :: ·) <$> takeBytes? (bytes - c.utf8Size) rest
    else none

def cut? (text : List Char) (first last : Nat) : Option (List Char) :=
  (dropBytes? first text).bind (takeBytes? (last - first))

end TemplateCode.Text
