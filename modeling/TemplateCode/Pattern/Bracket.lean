import TemplateCode.Pattern.Atom

/-! Classes in brackets. Of a class only its nesting is kept: how many brackets, unions and
operators are open at once. -/

namespace TemplateCode.Pattern

def nestingOf : List Nat → Nat
  | [] => 0
  | [nesting] => nesting
  | nestings => 1 + nestings.foldl max 0

/-- A bracket that is open: what stands before it in the bracket around it, and what stands to the
left of the last operator in it. -/
structure Bracket where
  before : List Nat
  left : Option Nat
  deriving DecidableEq, Repr

namespace Bracket

def nesting (b : Bracket) (items : List Nat) : Nat :=
  match b.left with
  | none => nestingOf items
  | some left => 1 + max left (nestingOf items)

def names : List String :=
  ["alnum", "alpha", "ascii", "blank", "cntrl", "digit", "graph", "lower", "print", "punct",
    "space", "upper", "word", "xdigit"]

def named? : List Char → Option (Bool × List Char)
  | ':' :: cs =>
    let (negated, cs) := match cs with
      | '^' :: cs => (true, cs)
      | cs => (false, cs)
    let name := String.ofList (cs.takeWhile (· != ':'))
    match cs.dropWhile (· != ':') with
    | ':' :: ']' :: rest => if names.contains name then some (negated, rest) else none
    | _ => none
  | _ => none

/-- The case of letters cannot be ignored in a class, and the complement of some bytes is no set of
characters. -/
def allowsNamed (mode : Mode) (negated : Bool) : Bool :=
  if mode.unicode then !mode.ignoreCase else !negated

def item? (mode : Mode) : List Char → Option (Atom × List Char)
  | [] => none
  | '\\' :: rest => Atom.ofEscape? mode rest
  | c :: rest => some (.literal c false, rest)

theorem named?_length_lt {cs rest : List Char} {negated : Bool}
    (h : named? cs = some (negated, rest)) : rest.length < cs.length := by
  unfold named? at h
  split at h
  · rename_i cs
    have colons (cs : List Char) := (List.dropWhile_suffix (· != ':') (l := cs)).length_le
    grind
  · cases h

theorem item?_length_lt {mode : Mode} {cs rest : List Char} {atom : Atom}
    (h : item? mode cs = some (atom, rest)) : rest.length < cs.length := by
  unfold item? at h
  split at h
  · cases h
  · have := Atom.ofEscape?_length_lt h
    grind
  · grind

def rangeEnd? (mode : Mode) (first : Atom) (cs : List Char) : Option (List Char) :=
  match item? mode (mode.skip cs), first with
  | some (.literal last isByte, rest), .literal first _ =>
    if (Atom.literal last isByte).standsInBrackets mode && first ≤ last then some rest else none
  | _, _ => none

/-- What is left after an item, or after a range between two characters. A hyphen before a closing
bracket or before another hyphen makes no range. -/
def range? (mode : Mode) (cs : List Char) : Option (List Char) :=
  match item? mode cs with
  | none => none
  | some (first, after) =>
    if !first.standsInBrackets mode then none
    else match mode.skip after with
      | [] => none
      | c :: rest =>
        let ahead := mode.peek rest
        if c != '-' || ahead == some ']' || ahead == some '-' then some (c :: rest)
        else rangeEnd? mode first rest

theorem rangeEnd?_length_lt {mode : Mode} {first : Atom} {cs rest : List Char}
    (h : rangeEnd? mode first cs = some rest) : rest.length < cs.length := by
  unfold rangeEnd? at h
  have := mode.skip_length_le cs
  split at h
  · rename_i found
    have := item?_length_lt found
    grind
  · cases h

theorem range?_length_lt {mode : Mode} {cs rest : List Char} (h : range? mode cs = some rest) :
    rest.length < cs.length := by
  unfold range? at h
  split at h
  · cases h
  · rename_i first after found
    have := item?_length_lt found
    have := mode.skip_length_le after
    split at h
    · cases h
    · split at h
      · cases h
      · rename_i c read skipped
        have shorter (h : rangeEnd? mode first read = some rest) := rangeEnd?_length_lt h
        grind

def hyphens (mode : Mode) (items : List Nat) (cs : List Char) : List Nat × List Char :=
  match _h : mode.skip cs with
  | '-' :: rest => hyphens mode (0 :: items) rest
  | cs => (items, cs)
termination_by cs.length
decreasing_by
  have := mode.skip_length_le cs
  grind

theorem hyphens_length_le (mode : Mode) (items : List Nat) (cs : List Char) :
    (hyphens mode items cs).2.length ≤ cs.length := by
  fun_induction hyphens mode items cs with
  | case1 items cs rest h ih =>
    have := mode.skip_length_le cs
    grind
  | case2 items cs => exact mode.skip_length_le cs

def negation (mode : Mode) (cs : List Char) : Bool × List Char :=
  match mode.skip cs with
  | '^' :: cs => (true, cs)
  | cs => (false, cs)

def firstItems (mode : Mode) (cs : List Char) : List Nat × List Char :=
  match hyphens mode [] cs with
  | ([], ']' :: rest) => ([0], mode.skip rest)
  | found => found

def opening? (mode : Mode) (cs : List Char) : Option (List Nat × List Char) :=
  let (negated, cs) := negation mode cs
  let (items, cs) := firstItems mode cs
  if !mode.unicode && negated then none
  else if !items.isEmpty && !(Atom.literal '-' false).standsInBrackets mode then none
  else if cs.isEmpty then none
  else some (items, cs)

theorem negation_length_le (mode : Mode) (cs : List Char) :
    (negation mode cs).2.length ≤ cs.length := by
  have := mode.skip_length_le cs
  unfold negation
  split <;> grind

theorem firstItems_length_le (mode : Mode) (cs : List Char) :
    (firstItems mode cs).2.length ≤ cs.length := by
  have := hyphens_length_le mode [] cs
  have skipped (cs : List Char) := mode.skip_length_le cs
  unfold firstItems
  split <;> grind

theorem opening?_length_le {mode : Mode} {items : List Nat} {cs rest : List Char}
    (h : opening? mode cs = some (items, rest)) : rest.length ≤ cs.length := by
  have := negation_length_le mode cs
  have := firstItems_length_le mode (negation mode cs).2
  grind [opening?]

def operator? : List Char → Option (List Char)
  | '&' :: '&' :: rest => some rest
  | '-' :: '-' :: rest => some rest
  | '~' :: '~' :: rest => some rest
  | _ => none

theorem operator?_length_lt {cs rest : List Char} (h : operator? cs = some rest) :
    rest.length < cs.length := by
  unfold operator? at h
  split at h <;> grind

/-- The rest of a class up to its end, given the brackets that are open, the innermost first, and
the items of the last union. Gives the nesting of the class and what follows it. -/
def rest? (mode : Mode) (current : Bracket) (around : List Bracket) (items : List Nat)
    (cs : List Char) : Option (Nat × List Char) :=
  match _h : mode.skip cs with
  | [] => none
  | '[' :: after =>
    match _named : named? after, _opened : opening? mode after with
    | some (negated, rest), _ =>
      if allowsNamed mode negated then rest? mode current around (0 :: items) rest else none
    | none, some (inner, rest) => rest? mode ⟨items, none⟩ (current :: around) inner rest
    | none, none => none
  | ']' :: rest =>
    let nesting := 1 + current.nesting items
    match around with
    | [] => some (nesting, rest)
    | next :: around => rest? mode next around (nesting :: current.before) rest
  | c :: after =>
    match _operator : operator? (c :: after), _range : range? mode (c :: after) with
    | some rest, _ =>
      rest? mode { current with left := some (current.nesting items) } around [] rest
    | none, some rest => rest? mode current around (0 :: items) rest
    | none, none => none
termination_by cs.length
decreasing_by
  all_goals
    have := mode.skip_length_le cs
    first
    | have := named?_length_lt _named
      grind
    | have := opening?_length_le _opened
      grind
    | have := operator?_length_lt _operator
      grind
    | have := range?_length_lt _range
      grind
    | grind

theorem rest?_length_lt {mode : Mode} {current : Bracket} {around : List Bracket}
    {items : List Nat} {cs rest : List Char} {nesting : Nat}
    (h : rest? mode current around items cs = some (nesting, rest)) : rest.length < cs.length := by
  have skipped (cs : List Char) := mode.skip_length_le cs
  have named {cs rest : List Char} {negated : Bool} (h : named? cs = some (negated, rest)) :=
    named?_length_lt h
  have opened {cs rest : List Char} {items : List Nat}
      (h : opening? mode cs = some (items, rest)) := opening?_length_le h
  have operator {cs rest : List Char} (h : operator? cs = some rest) := operator?_length_lt h
  have range {cs rest : List Char} (h : range? mode cs = some rest) := range?_length_lt h
  fun_induction rest? mode current around items cs <;> grind

def class? (mode : Mode) (cs : List Char) : Option (Nat × List Char) :=
  match opening? mode cs with
  | none => none
  | some (items, rest) => rest? mode ⟨[], none⟩ [] items rest

theorem class?_length_lt {mode : Mode} {cs rest : List Char} {nesting : Nat}
    (h : class? mode cs = some (nesting, rest)) : rest.length < cs.length := by
  unfold class? at h
  split at h
  · cases h
  · rename_i opened
    have := opening?_length_le opened
    have := rest?_length_lt h
    omega

end Bracket

end TemplateCode.Pattern
