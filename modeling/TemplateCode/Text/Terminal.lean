/-! Control sequences of a terminal, and texts without them. A text for a terminal holds sequences
that begin with an escape character; whoever is no terminal gets the text without them, and without
all other control characters but blanks. -/

namespace TemplateCode.Text.Terminal

/-- Where a reader of control sequences is: in none, right after an escape character, in a sequence
with parameters, or in one of the strings that only their end sign ends. -/
inductive State where
  | ground
  | escape
  | escapeIntermediate
  | sequenceEntry
  | sequenceParameter
  | sequenceIntermediate
  | sequenceIgnored
  | deviceEntry
  | deviceParameter
  | deviceIntermediate
  | deviceData
  | deviceIgnored
  | systemCommand
  | privateString
  deriving DecidableEq, Repr

namespace State

def afterEscape (n : Nat) : State :=
  if n ≤ 0x1F ∨ n = 0x7F then .escape
  else if n ≤ 0x2F then .escapeIntermediate
  else if n = 0x50 then .deviceEntry
  else if n = 0x5B then .sequenceEntry
  else if n = 0x5D then .systemCommand
  else if n = 0x58 ∨ n = 0x5E ∨ n = 0x5F then .privateString
  else .ground

def inSequence (state : State) (n : Nat) : State :=
  if n ≤ 0x1F ∨ n = 0x7F then state
  else if 0x40 ≤ n then .ground
  else match state with
    | .sequenceEntry => if n ≤ 0x2F then .sequenceIntermediate else .sequenceParameter
    | .sequenceParameter =>
      if n ≤ 0x2F then .sequenceIntermediate
      else if n ≤ 0x3B then .sequenceParameter
      else .sequenceIgnored
    | .sequenceIntermediate => if n ≤ 0x2F then .sequenceIntermediate else .sequenceIgnored
    | state => state

def inDevice (state : State) (n : Nat) : State :=
  if n ≤ 0x1F ∨ n = 0x7F then state
  else if 0x40 ≤ n then .deviceData
  else match state with
    | .deviceEntry => if n ≤ 0x2F then .deviceIntermediate else .deviceParameter
    | .deviceParameter =>
      if n ≤ 0x2F then .deviceIntermediate
      else if n ≤ 0x3B then .deviceParameter
      else .deviceIgnored
    | .deviceIntermediate => if n ≤ 0x2F then .deviceIntermediate else .deviceIgnored
    | state => state

/-- The state after an ASCII character. Three control characters are obeyed in every state. -/
def after (state : State) (n : Nat) : State :=
  if n = 0x1B then .escape
  else if n = 0x18 ∨ n = 0x1A then .ground
  else match state with
    | .ground => .ground
    | .escape => afterEscape n
    | .escapeIntermediate => if 0x30 ≤ n ∧ n ≤ 0x7E then .ground else .escapeIntermediate
    | .sequenceEntry | .sequenceParameter | .sequenceIntermediate | .sequenceIgnored =>
      state.inSequence n
    | .deviceEntry | .deviceParameter | .deviceIntermediate => state.inDevice n
    | .systemCommand => if n = 0x07 then .ground else .systemCommand
    | .deviceData | .deviceIgnored | .privateString => state

/-- The state after a character that is not ASCII. The byte that ends some strings may be one of
those that encode it. -/
def afterOther (state : State) (c : Char) : State :=
  match state with
  | .deviceData | .deviceIgnored | .privateString =>
    if c.toString.toUTF8.data.contains 0x9C then .ground else state
  | state => state

def obeys : State → Bool
  | .ground | .escape | .escapeIntermediate => true
  | .sequenceEntry | .sequenceParameter | .sequenceIntermediate | .sequenceIgnored => true
  | _ => false

end State

def isControlBlank (c : Char) : Bool := c == '\t' || c == '\n' || c == '\x0c' || c == '\r'

def shows (c : Char) : Bool := isControlBlank c || (0x20 ≤ c.toNat && c.toNat != 0x7F)

/-- The text that shows. While it shows, a state from before is kept: a blank in the midst of a
sequence shows and interrupts the sequence, which goes on after the next control character. -/
def visible (showing : Bool) (state : State) : List Char → List Char
  | [] => []
  | c :: rest =>
    if 0x80 ≤ c.toNat then
      if showing || state = .ground then c :: visible true .ground rest
      else visible false (state.afterOther c) rest
    else if showing && shows c then c :: visible true state rest
    else if state = .ground && shows c || state.obeys && isControlBlank c then
      c :: visible true state rest
    else visible false (state.after c.toNat) rest

def plain (text : String) : String := String.ofList (visible false .ground text.toList)

end TemplateCode.Text.Terminal
