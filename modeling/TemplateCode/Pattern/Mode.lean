import TemplateCode.Text.Basic

/-! How a part of a pattern is to be read. Letters in a group switch it: a pattern may ignore the
case of letters, may be about bytes in place of characters, and may be spaced out with blanks and
comments that mean nothing. -/

namespace TemplateCode.Pattern

structure Mode where
  ignoreCase : Bool
  unicode : Bool
  spaced : Bool
  deriving DecidableEq, Repr

namespace Mode

def start : Mode := ⟨false, true, false⟩

def letters : List Char := ['i', 'm', 's', 'U', 'u', 'R', 'x']

def switch (mode : Mode) (letter : Char) (on : Bool) : Mode :=
  match letter with
  | 'i' => { mode with ignoreCase := on }
  | 'u' => { mode with unicode := on }
  | 'x' => { mode with spaced := on }
  | _ => mode

/-- The letters up to the colon or parenthesis that ends them. Those after a hyphen switch off; none
comes twice, and the hyphen neither comes twice nor last. Gives the mode that they switch to, what
was seen, the end sign and what follows it. -/
def read (mode : Mode) (seen : List Char) : List Char → Option (Mode × List Char × Char × List Char)
  | [] => none
  | c :: rest =>
    if c = ':' ∨ c = ')' then
      if seen.head? = some '-' then none else some (mode, seen, c, rest)
    else if seen.contains c then none
    else if c = '-' then mode.read (c :: seen) rest
    else if letters.contains c then (mode.switch c (!seen.contains '-')).read (c :: seen) rest
    else none

def skipBlanks (inComment : Bool) : List Char → List Char
  | [] => []
  | c :: rest =>
    if inComment then skipBlanks (c != '\n') rest
    else if Text.isBlank c then skipBlanks false rest
    else if c = '#' then skipBlanks true rest
    else c :: rest

def skip (mode : Mode) (cs : List Char) : List Char :=
  if mode.spaced then skipBlanks false cs else cs

theorem skipBlanks_length_le (inComment : Bool) (cs : List Char) :
    (skipBlanks inComment cs).length ≤ cs.length := by
  fun_induction skipBlanks inComment cs <;> simp_all <;> omega

theorem skip_length_le (mode : Mode) (cs : List Char) : (mode.skip cs).length ≤ cs.length := by
  unfold skip
  split
  · exact skipBlanks_length_le false cs
  · exact Nat.le_refl _

theorem read_length_lt {mode mode' : Mode} {seen seen' cs rest : List Char} {stop : Char}
    (h : mode.read seen cs = some (mode', seen', stop, rest)) : rest.length < cs.length := by
  fun_induction read mode seen cs <;> grind

/-- The first sign that is no blank and does not begin a comment. The text of a comment is not
passed over. -/
def peekBlanks (inComment : Bool) : List Char → Option Char
  | [] => none
  | c :: rest =>
    if Text.isBlank c then peekBlanks inComment rest
    else if c = '#' && !inComment then peekBlanks true rest
    else some c

def peek (mode : Mode) (cs : List Char) : Option Char :=
  if mode.spaced then (peekBlanks false cs).or cs.head? else cs.head?

end Mode

end TemplateCode.Pattern
