import Mathlib.Data.List.Forall2
import TemplateCode.Json.Printer
import TemplateCode.Json.Token

/-! The texts in which an object of scalars may be written: blanks around every token, any escape
for any character of a string, and numerals of any size. The scanner finds the same tokens in all
of them. -/

namespace TemplateCode.Json

section Grammar

def Blank (text : List Char) : Prop := ∀ c ∈ text, c ∈ [' ', '\t', '\n', '\r']

def Padded (Inner : List Char → Prop) (text : List Char) : Prop :=
  ∃ before inner after, Blank before ∧ Inner inner ∧ Blank after ∧ text = before ++ inner ++ after

theorem Padded.imp {Inner Other : List Char → Prop} {text : List Char} (h : Padded Inner text)
    (himp : ∀ inner, Inner inner → Other inner) : Padded Other text := by
  obtain ⟨before, inner, after, hbefore, hinner, hafter, htext⟩ := h
  exact ⟨before, inner, after, hbefore, himp inner hinner, hafter, htext⟩

def HexDigit (n : Nat) (c : Char) : Prop := n < 16 ∧ (c = hexDigit n ∨ c = (hexDigit n).toUpper)

inductive HexText : Nat → List Char → Prop
  | mk {k l m n : Nat} {p q r s : Char} (hk : HexDigit k p) (hl : HexDigit l q)
      (hm : HexDigit m r) (hn : HexDigit n s) :
      HexText (((k * 16 + l) * 16 + m) * 16 + n) [p, q, r, s]

def shortEscapes : List (Char × Char) :=
  [('"', '"'), ('\\', '\\'), ('/', '/'), ('b', '\x08'), ('f', '\x0c'), ('n', '\n'), ('r', '\r'),
    ('t', '\t')]

/-- A character as itself or by its letter, or any code unit by its digits. -/
inductive UnitText : Nat → List Char → Prop
  | plain {c : Char} (hcontrol : 0x20 ≤ c.toNat) (hquote : c ≠ '"') (hbackslash : c ≠ '\\') :
      UnitText c.toNat [c]
  | short {letter c : Char} (h : (letter, c) ∈ shortEscapes) : UnitText c.toNat ['\\', letter]
  | hex {unit : Nat} {digits : List Char} (h : HexText unit digits) :
      UnitText unit ('\\' :: 'u' :: digits)

/-- A character by one code unit or by a pair of surrogates. -/
inductive CharText : Char → List Char → Prop
  | single {c : Char} {text : List Char} (h : UnitText c.toNat text) : CharText c text
  | pair {c : Char} {high low : Nat} {digits more : List Char}
      (hhigh : HexText (0xD800 + high) digits) (hlow : HexText (0xDC00 + low) more)
      (hhighest : high < 0x400) (hlowest : low < 0x400)
      (hc : c.toNat = 0x10000 + high * 0x400 + low) :
      CharText c ('\\' :: 'u' :: digits ++ '\\' :: 'u' :: more)

def inQuotes (pieces : List (List Char)) : List Char := '"' :: (pieces.flatten ++ ['"'])

def StringText (s : String) (text : List Char) : Prop :=
  ∃ pieces, List.Forall₂ CharText s.toList pieces ∧ text = inQuotes pieces

def Digits (text : List Char) : Prop := text ≠ [] ∧ ∀ c ∈ text, c.isDigit = true

inductive WholeText : List Char → Prop
  | zero : WholeText ['0']
  | digits {c : Char} {rest : List Char} (h : Digits (c :: rest)) (hc : c ≠ '0') :
      WholeText (c :: rest)

inductive FractionText : List Char → Prop
  | absent : FractionText []
  | digits {digits : List Char} (h : Digits digits) : FractionText ('.' :: digits)

inductive ExponentText : List Char → Prop
  | absent : ExponentText []
  | digits {mark : Char} {sign digits : List Char} (hmark : mark ∈ ['e', 'E'])
      (hsign : sign ∈ [[], ['+'], ['-']]) (h : Digits digits) :
      ExponentText (mark :: (sign ++ digits))

inductive NumeralText : List Char → Prop
  | mk {sign whole fraction exponent : List Char} (hsign : sign ∈ [[], ['-']])
      (hwhole : WholeText whole) (hfraction : FractionText fraction)
      (hexponent : ExponentText exponent) :
      NumeralText (sign ++ (whole ++ (fraction ++ exponent)))

def boolText (b : Bool) : List Char := (if b then "true" else "false").toList

/-- The text of any scalar. The surrogates of a string need not be paired. -/
inductive ScalarText : List Char → Prop
  | null : ScalarText "null".toList
  | bool (b : Bool) : ScalarText (boolText b)
  | numeral {text : List Char} (h : NumeralText text) : ScalarText text
  | string {units : List Nat} {pieces : List (List Char)} (h : List.Forall₂ UnitText units pieces) :
      ScalarText (inQuotes pieces)

inductive ObjectText : List (List Char) → List Char → Prop
  | empty {before inner after : List Char} (hbefore : Blank before) (hinner : Blank inner)
      (hafter : Blank after) : ObjectText [] (before ++ '{' :: (inner ++ '}' :: after))
  | members {before after : List Char} {members : List (List Char)} (hbefore : Blank before)
      (hne : members ≠ []) (hafter : Blank after) :
      ObjectText members (before ++ '{' :: ([','].intercalate members ++ '}' :: after))

end Grammar

section Strings

variable {units : List Nat} {found : List Token}

theorem hexDigit_self (n : Nat) (h : n < 16) : HexDigit n (hexDigit n) := ⟨h, .inl rfl⟩

theorem hexDigit_upper (n : Nat) (h : n < 16) : HexDigit n (hexDigit n).toUpper := ⟨h, .inr rfl⟩

theorem unitText_encodeChar (c : Char) : UnitText c.toNat (encodeChar c) := by
  fun_cases encodeChar c with
  | case1 | case2 | case3 | case4 | case5 | case6 | case7 => exact .short (by simp [shortEscapes])
  | case8 c _ _ _ _ _ _ _ hcontrol =>
    have hvalue : ((0 * 16 + 0) * 16 + c.toNat / 16) * 16 + c.toNat % 16 = c.toNat := by omega
    have hzero := hexDigit_self 0 (by decide)
    have hhex := HexText.mk hzero hzero (hexDigit_self (c.toNat / 16) (by omega))
      (hexDigit_self (c.toNat % 16) (by omega))
    rw [hvalue] at hhex
    exact .hex hhex
  | case9 c hquote hbackslash _ _ _ _ _ hplain =>
    exact .plain (Nat.not_lt.1 hplain) hquote hbackslash

theorem charTexts_encodeChar (chars : List Char) :
    List.Forall₂ CharText chars (chars.map encodeChar) := by
  rw [List.forall₂_map_right_iff, List.forall₂_same]
  exact fun c _ => .single (unitText_encodeChar c)

theorem stringText_quoted (s : String) : StringText s (quoted s).toList :=
  ⟨_, charTexts_encodeChar s.toList, by simp [quoted, inQuotes, List.flatMap]⟩

theorem hexValue?_of_hexDigit {n : Nat} {c : Char} (h : HexDigit n c) : hexValue? c = some n := by
  have hlower : ∀ n < 16, hexValue? (hexDigit n) = some n := by decide
  have hupper : ∀ n < 16, hexValue? (hexDigit n).toUpper = some n := by decide
  obtain ⟨hn, rfl | rfl⟩ := h
  · exact hlower n hn
  · exact hupper n hn

theorem escaped?_of_mem {letter c : Char} (h : (letter, c) ∈ shortEscapes) :
    letter ≠ 'u' ∧ escaped? letter = some c.toNat := by
  have hall : ∀ pair ∈ shortEscapes, pair.1 ≠ 'u' ∧ escaped? pair.1 = some pair.2.toNat := by
    decide
  exact hall _ h

theorem foldl_hexText {unit : Nat} {digits : List Char} (h : HexText unit digits) :
    ('\\' :: 'u' :: digits).foldl Scanner.step ⟨.text units, found⟩ =
      ⟨.text (unit :: units), found⟩ := by
  obtain ⟨hk, hl, hm, hn⟩ := h
  simp [Scanner.step, Scanner.enter, hexValue?_of_hexDigit hk, hexValue?_of_hexDigit hl,
    hexValue?_of_hexDigit hm, hexValue?_of_hexDigit hn]

theorem foldl_unitText {unit : Nat} {text : List Char} (h : UnitText unit text) :
    text.foldl Scanner.step ⟨.text units, found⟩ = ⟨.text (unit :: units), found⟩ := by
  cases h with
  | plain hcontrol hquote hbackslash =>
    simp [Scanner.step, Scanner.enter, if_neg hquote, if_neg hbackslash, Nat.not_lt.2 hcontrol]
  | short h =>
    obtain ⟨hu, hescaped⟩ := escaped?_of_mem h
    simp [Scanner.step, Scanner.enter, hu, hescaped]
  | hex h => exact foldl_hexText h

theorem foldl_unitTexts {more : List Nat} {pieces : List (List Char)}
    (h : List.Forall₂ UnitText more pieces) :
    pieces.flatten.foldl Scanner.step ⟨.text units, found⟩ =
      ⟨.text (more.reverse ++ units), found⟩ := by
  induction h generalizing units with
  | nil => rfl
  | cons hpiece _ ih => simp [foldl_unitText hpiece, ih]

theorem foldl_inQuotes {more : List Nat} {pieces : List (List Char)}
    (h : List.Forall₂ UnitText more pieces) :
    (inQuotes pieces).foldl Scanner.step ⟨.between, found⟩ =
      ⟨.between, .string ((decodeUnits [] more).map String.ofList) :: found⟩ := by
  have hopen : Scanner.step ⟨.between, found⟩ '"' = ⟨.text [], found⟩ := rfl
  rw [inQuotes, List.foldl_cons, hopen, List.foldl_append, foldl_unitTexts h]
  simp [Scanner.step, Scanner.emit]

theorem surrogate_toNat (c : Char) : isHigh c.toNat = false ∧ isLow c.toNat = false := by
  have hvalid : c.toNat < 0xD800 ∨ 0xDFFF < c.toNat ∧ c.toNat < 0x110000 := c.valid
  simp only [isHigh, isLow, Bool.and_eq_false_iff, decide_eq_false_iff_not]
  omega

theorem decodeUnits_char (done : List Char) (c : Char) (rest : List Nat) :
    decodeUnits done (c.toNat :: rest) = decodeUnits (c :: done) rest := by
  obtain ⟨hhigh, hlow⟩ := surrogate_toNat c
  cases rest <;> simp [decodeUnits, hhigh, hlow]

theorem decodeUnits_pair (done : List Char) {c : Char} {high low : Nat} (hhighest : high < 0x400)
    (hlowest : low < 0x400) (hc : c.toNat = 0x10000 + high * 0x400 + low) (rest : List Nat) :
    decodeUnits done ((0xD800 + high) :: (0xDC00 + low) :: rest) =
      decodeUnits (c :: done) rest := by
  have hhigh : isHigh (0xD800 + high) = true := by
    simp only [isHigh, Bool.and_eq_true, decide_eq_true_eq]
    omega
  have hlow : isLow (0xDC00 + low) = true := by
    simp only [isLow, Bool.and_eq_true, decide_eq_true_eq]
    omega
  rw [decodeUnits, if_pos hhigh, if_pos hlow, Nat.add_sub_cancel_left, Nat.add_sub_cancel_left,
    ← hc, Char.ofNat_toNat]

theorem units_of_charTexts {chars : List Char} {pieces : List (List Char)}
    (h : List.Forall₂ CharText chars pieces) :
    ∃ units parts, List.Forall₂ UnitText units parts ∧ parts.flatten = pieces.flatten ∧
      ∀ done, decodeUnits done units = some (done.reverse ++ chars) := by
  induction h with
  | nil => exact ⟨[], [], .nil, rfl, fun done => by simp [decodeUnits]⟩
  | @cons c piece chars pieces hpiece _ ih =>
    obtain ⟨units, parts, hunits, hflatten, hdecode⟩ := ih
    cases hpiece with
    | single h =>
      refine ⟨c.toNat :: units, piece :: parts, .cons h hunits, by simp [hflatten], fun done => ?_⟩
      rw [decodeUnits_char, hdecode]
      simp
    | pair hhigh hlow hhighest hlowest hc =>
      -- One piece of the string, but two units.
      refine ⟨_, _, .cons (.hex hhigh) (.cons (.hex hlow) hunits), by simp [hflatten],
        fun done => ?_⟩
      rw [decodeUnits_pair done hhighest hlowest hc, hdecode]
      simp

theorem foldl_stringText {s : String} {text : List Char} (h : StringText s text) :
    text.foldl Scanner.step ⟨.between, found⟩ = ⟨.between, .string (some s) :: found⟩ := by
  obtain ⟨pieces, hpieces, rfl⟩ := h
  obtain ⟨units, parts, hunits, hflatten, hdecode⟩ := units_of_charTexts hpieces
  have hquotes : inQuotes pieces = inQuotes parts := by rw [inQuotes, inQuotes, hflatten]
  rw [hquotes, foldl_inQuotes hunits, hdecode]
  simp

end Strings

section Numerals

def Reaches (part : NumeralPart) (text : List Char) (next : NumeralPart) : Prop :=
  ∀ chars found, text.foldl Scanner.step ⟨.numeral part chars, found⟩ =
    ⟨.numeral next (text.reverse ++ chars), found⟩

theorem Reaches.nil (part : NumeralPart) : Reaches part [] part := fun _ _ => rfl

theorem Reaches.cons {part middle next : NumeralPart} {c : Char} {text : List Char}
    (hc : part.next? c = some middle) (h : Reaches middle text next) :
    Reaches part (c :: text) next := by
  intro chars found
  simp [Scanner.step, Scanner.enter, hc, h (c :: chars) found]

theorem Reaches.append {part middle next : NumeralPart} {text more : List Char}
    (htext : Reaches part text middle) (hmore : Reaches middle more next) :
    Reaches part (text ++ more) next := by
  intro chars found
  simp [htext chars found, hmore (text.reverse ++ chars) found]

theorem reaches_digits (part next : NumeralPart)
    (hpart : ∀ c : Char, c.isDigit = true → part.next? c = some next)
    (hnext : ∀ c : Char, c.isDigit = true → next.next? c = some next) {digits : List Char}
    (h : Digits digits) : Reaches part digits next := by
  obtain ⟨hne, hdigits⟩ := h
  induction digits generalizing part with
  | nil => exact absurd rfl hne
  | cons c rest ih =>
    obtain ⟨hc, hrest⟩ := List.forall_mem_cons.1 hdigits
    refine .cons (hpart c hc) ?_
    cases rest with
    | nil => exact .nil next
    | cons d rest => exact ih next hnext (List.cons_ne_nil d rest) hrest

theorem reaches_wholeText {text : List Char} (h : WholeText text) :
    ∃ part ∈ [NumeralPart.zero, .whole], Reaches .sign text part := by
  cases h with
  | zero => exact ⟨.zero, by simp, .cons rfl (.nil _)⟩
  | @digits c rest h hc =>
    obtain ⟨hfirst, hrest⟩ := List.forall_mem_cons.1 h.2
    have hwhole : NumeralPart.next? .sign c = some .whole := (if_neg hc).trans (if_pos hfirst)
    refine ⟨.whole, by simp, .cons hwhole ?_⟩
    cases rest with
    | nil => exact .nil _
    | cons d rest =>
      exact reaches_digits .whole .whole (fun _ hd => if_pos hd) (fun _ hd => if_pos hd)
        ⟨List.cons_ne_nil d rest, hrest⟩

theorem reaches_fractionText {part : NumeralPart} (hpart : part ∈ [NumeralPart.zero, .whole])
    {text : List Char} (h : FractionText text) :
    ∃ next ∈ [NumeralPart.zero, .whole, .fraction], Reaches part text next := by
  cases h with
  | absent => exact ⟨part, List.mem_append_left [NumeralPart.fraction] hpart, .nil part⟩
  | digits h =>
    have hpoint : ∀ part ∈ [NumeralPart.zero, .whole], part.next? '.' = some .point := by decide
    exact ⟨.fraction, by simp, .cons (hpoint part hpart)
      (reaches_digits .point .fraction (fun _ hd => if_pos hd) (fun _ hd => if_pos hd) h)⟩

theorem reaches_exponentText {part : NumeralPart}
    (hpart : part ∈ [NumeralPart.zero, .whole, .fraction]) {text : List Char}
    (h : ExponentText text) :
    ∃ next : NumeralPart, next.complete = true ∧ Reaches part text next := by
  cases h with
  | absent =>
    have hcomplete : ∀ part ∈ [NumeralPart.zero, .whole, .fraction], part.complete = true := by
      decide
    exact ⟨part, hcomplete part hpart, .nil part⟩
  | @digits mark sign digits hmark hsign h =>
    have hnext : ∀ part ∈ [NumeralPart.zero, .whole, .fraction], ∀ mark ∈ ['e', 'E'],
        part.next? mark = some .mark := by
      simp [NumeralPart.next?, Number.isMark]
    refine ⟨.exponent, rfl, .cons (hnext part hpart mark hmark) ?_⟩
    have hdigits (part : NumeralPart)
        (hpart : ∀ c : Char, c.isDigit = true → part.next? c = some .exponent) :=
      reaches_digits part .exponent hpart (fun _ hd => if_pos hd) h
    simp only [List.mem_cons, List.not_mem_nil, or_false] at hsign
    obtain rfl | rfl | rfl := hsign
    · exact hdigits .mark fun _ hd => if_pos hd
    · exact .cons rfl (hdigits .markSign fun _ hd => if_pos hd)
    · exact .cons rfl (hdigits .markSign fun _ hd => if_pos hd)

theorem mem_digits {c : Char} (h : c.isDigit = true) : c ∈ "0123456789".toList := by
  have hall : ∀ n < 58, 48 ≤ n → Char.ofNat n ∈ "0123456789".toList := by decide
  obtain ⟨hleast, hmost⟩ : 48 ≤ c.toNat ∧ c.toNat ≤ 57 := by
    simpa [Char.isDigit, UInt32.le_iff_toNat_le] using h
  rw [← Char.ofNat_toNat c]
  exact hall _ (by omega) hleast

theorem step_digit {c : Char} (h : c.isDigit = true) (found : List Token) :
    Scanner.step ⟨.between, found⟩ c = Scanner.step ⟨.numeral .sign [], found⟩ c := by
  have hmem := mem_digits h
  simp only [String.reduceToList, List.mem_cons, List.not_mem_nil, or_false] at hmem
  obtain rfl | rfl | rfl | rfl | rfl | rfl | rfl | rfl | rfl | rfl := hmem <;> rfl

theorem WholeText.exists_cons {text : List Char} (h : WholeText text) :
    ∃ c rest, text = c :: rest ∧ c.isDigit = true := by
  cases h with
  | zero => exact ⟨'0', [], rfl, rfl⟩
  | @digits c rest h => exact ⟨c, rest, rfl, h.2 c List.mem_cons_self⟩

theorem foldl_numeralText {text : List Char} (h : NumeralText text) (found : List Token) :
    ∃ part : NumeralPart, part.complete = true ∧
      text.foldl Scanner.step ⟨.between, found⟩ = ⟨.numeral part text.reverse, found⟩ := by
  obtain @⟨sign, whole, fraction, exponent, hsign, hwhole, hfraction, hexponent⟩ := h
  obtain ⟨c, rest, hcons, hc⟩ := hwhole.exists_cons
  obtain ⟨first, hfirst, hwhole⟩ := reaches_wholeText hwhole
  obtain ⟨middle, hmiddle, hfraction⟩ := reaches_fractionText hfirst hfraction
  obtain ⟨part, hpart, hexponent⟩ := reaches_exponentText hmiddle hexponent
  have hunsigned := hwhole.append (hfraction.append hexponent)
  refine ⟨part, hpart, ?_⟩
  simp only [List.mem_cons, List.not_mem_nil, or_false] at hsign
  obtain rfl | rfl := hsign
  · -- Without a sign the first digit stands between tokens, where it has the same effect.
    have hbegin := hunsigned [] found
    rw [List.append_nil, hcons, List.cons_append, List.foldl_cons, ← step_digit hc] at hbegin
    rw [List.nil_append, hcons]
    exact hbegin
  · have hminus : Scanner.step ⟨.between, found⟩ '-' = ⟨.numeral .sign ['-'], found⟩ := rfl
    rw [List.singleton_append, List.foldl_cons, hminus, hunsigned, List.reverse_cons]

end Numerals

section Scans

def delimiters : List Char := [' ', '\t', '\n', '\r', ',', ':', '}']

/-- The scanner finds these tokens in a text when a delimiter follows it. -/
def Scans (text : List Char) (tokens : List Token) : Prop :=
  ∀ found, ∀ c ∈ delimiters, ∀ rest, (text ++ c :: rest).foldl Scanner.step ⟨.between, found⟩ =
    (c :: rest).foldl Scanner.step ⟨.between, tokens.reverse ++ found⟩

theorem scans_of_foldl {text : List Char} {token : Token}
    (h : ∀ found, text.foldl Scanner.step ⟨.between, found⟩ = ⟨.between, token :: found⟩) :
    Scans text [token] := by
  intro found c _ rest
  rw [List.foldl_append, h]
  rfl

theorem scans_numeralText {text : List Char} (h : NumeralText text) :
    Scans text [.number (Number.ofNumeral? text)] := by
  intro found c hc rest
  obtain ⟨part, hpart, hfold⟩ := foldl_numeralText h found
  have hnext : ∀ c ∈ delimiters, part.next? c = none ∧ c.isDigit = false := by
    cases part <;> simp [delimiters, NumeralPart.next?, Number.isMark]
  obtain ⟨hnone, hdigit⟩ := hnext c hc
  rw [List.foldl_append, hfold]
  simp [Scanner.step, Scanner.emit, hnone, hdigit, hpart]

theorem foldl_blank {text : List Char} (h : Blank text) (found : List Token) :
    text.foldl Scanner.step ⟨.between, found⟩ = ⟨.between, found⟩ := by
  have hblank : ∀ c ∈ [' ', '\t', '\n', '\r'],
      Scanner.step ⟨.between, found⟩ c = ⟨.between, found⟩ := by
    simp [Scanner.step, Scanner.begin, Scanner.enter]
  induction text with
  | nil => rfl
  | cons c text ih =>
    obtain ⟨hc, htext⟩ := List.forall_mem_cons.1 h
    rw [List.foldl_cons, hblank c hc, ih htext]

theorem scans_blank {text : List Char} (h : Blank text) : Scans text [] := by
  intro found c _ rest
  rw [List.foldl_append, foldl_blank h]
  rfl

theorem Scans.padded {text : List Char} {tokens : List Token} (h : Padded (Scans · tokens) text) :
    Scans text tokens := by
  obtain ⟨before, inner, after, hbefore, hinner, hafter, rfl⟩ := h
  intro found c hc rest
  rw [List.append_assoc, List.append_assoc, List.foldl_append, foldl_blank hbefore]
  -- A numeral ends at whatever comes next, so the first blank behind it is its delimiter.
  cases after with
  | nil => exact hinner found c hc rest
  | cons d after =>
    have hd : d ∈ delimiters :=
      List.mem_append_left [',', ':', '}'] (hafter d List.mem_cons_self)
    rw [List.cons_append, hinner found d hd, ← List.cons_append, List.foldl_append,
      foldl_blank hafter]

theorem Scans.joined {text more : List Char} {tokens further : List Token} {c : Char}
    {token : Token} (hc : (c, token) ∈ [(',', Token.comma), (':', .colon)])
    (htext : Scans text tokens) (hmore : Scans more further) :
    Scans (text ++ c :: more) (tokens ++ token :: further) := by
  intro found d hd rest
  have hstep : ∀ found, Scanner.step ⟨.between, found⟩ c = ⟨.between, token :: found⟩ := by
    simp only [List.mem_cons, Prod.mk.injEq, List.not_mem_nil, or_false] at hc
    obtain ⟨rfl, rfl⟩ | ⟨rfl, rfl⟩ := hc <;> exact fun _ => rfl
  have hdelimiter : c ∈ delimiters := by
    simp only [List.mem_cons, Prod.mk.injEq, List.not_mem_nil, or_false] at hc
    obtain ⟨rfl, -⟩ | ⟨rfl, -⟩ := hc <;> simp [delimiters]
  rw [List.append_assoc, List.cons_append, htext found c hdelimiter, List.foldl_cons, hstep,
    hmore _ d hd]
  simp

theorem scans_intercalate {texts : List (List Char)} {groups : List (List Token)}
    (h : List.Forall₂ Scans texts groups) :
    Scans ([','].intercalate texts) ([Token.comma].intercalate groups) := by
  induction h with
  | nil => exact scans_blank (by simp [Blank])
  | cons hfirst hrest ih =>
    cases hrest with
    | nil => simpa using hfirst
    | cons =>
      rw [List.intercalate_cons_cons, List.intercalate_cons_cons, List.append_assoc,
        List.append_assoc]
      exact hfirst.joined (by simp) ih

theorem tokens_braces {before inner after : List Char} {found : List Token} (hbefore : Blank before)
    (hinner : Scans inner found) (hafter : Blank after) :
    tokens (before ++ '{' :: (inner ++ '}' :: after)) =
      .objectStart :: (found ++ [.objectEnd]) := by
  have hopen : ∀ found, Scanner.step ⟨.between, found⟩ '{' = ⟨.between, .objectStart :: found⟩ :=
    fun _ => rfl
  have hclose : ∀ found, Scanner.step ⟨.between, found⟩ '}' = ⟨.between, .objectEnd :: found⟩ :=
    fun _ => rfl
  rw [tokens, Scanner.start, List.foldl_append, foldl_blank hbefore, List.foldl_cons, hopen,
    hinner _ '}' (by simp [delimiters]), List.foldl_cons, hclose, foldl_blank hafter]
  simp [Scanner.finish]

theorem tokens_objectText {texts : List (List Char)} {text : List Char} {groups : List (List Token)}
    (h : ObjectText texts text) (hgroups : List.Forall₂ Scans texts groups) :
    tokens text = .objectStart :: ([Token.comma].intercalate groups ++ [.objectEnd]) := by
  cases h with
  | empty hbefore hinner hafter =>
    cases hgroups
    exact tokens_braces hbefore (scans_blank hinner) hafter
  | members hbefore _ hafter => exact tokens_braces hbefore (scans_intercalate hgroups) hafter

end Scans

end TemplateCode.Json
