import Mathlib.Algebra.Ring.Parity
import Mathlib.Data.List.DropRight
import TemplateCode.Proofs.LiteralValue
import TemplateCode.Script.Lexical

/-! The copy of a template as one literal. It is written in two steps: the marker takes the place of
every line break, and a backslash is put before each quote and backslash. The first step leaves no line
break behind, and the second can be undone and leaves no quote that would end the literal. -/

namespace TemplateCode.Script.DebugCopy

open Literal (lineBreaks)

def withBreaks (mark : List Char) : List Char → List Char
  | [] => []
  | '\r' :: '\n' :: rest => mark ++ withBreaks mark rest
  | c :: rest => (if c ∈ lineBreaks then mark else [c]) ++ withBreaks mark rest

def letters : List Char := ['\\', '"', '\'']

def escapeChar (c : Char) : List Char := if c ∈ letters then ['\\', c] else [c]

def escaped (text : List Char) : List Char := text.flatMap escapeChar

theorem escapeChar_cases (c : Char) :
    (c ∈ letters ∧ escapeChar c = ['\\', c]) ∨
      (c ∉ letters ∧ c ≠ '\\' ∧ escapeChar c = [c]) := by
  unfold escapeChar
  split
  · next hc => exact .inl ⟨hc, rfl⟩
  · next hc =>
    have hbackslash : c ≠ '\\' := by
      rintro rfl
      exact hc List.mem_cons_self
    exact .inr ⟨hc, hbackslash, rfl⟩

theorem escaped_cons (c : Char) (text : List Char) :
    escaped (c :: text) = escapeChar c ++ escaped text := List.flatMap_cons

theorem escaped_append (s t : List Char) : escaped (s ++ t) = escaped s ++ escaped t :=
  List.flatMap_append

theorem escaped_concat (text : List Char) (c : Char) :
    escaped (text ++ [c]) = escaped text ++ escapeChar c := by
  rw [escaped_append, escaped, escaped, List.flatMap_singleton]

theorem encodeChar_eq (c : Char) :
    encodeChar c = escaped (if c ∈ lineBreaks then marker else [c]) := by
  fun_cases encodeChar c with
  | case1 | case2 | case3 | case4 | case5 | case6 | case7 => decide
  | case8 _ hb hd hs hn hr hl hp =>
    have hbreak : c ∉ lineBreaks := by
      simp only [lineBreaks, List.mem_cons, List.not_mem_nil, or_false, not_or]
      exact ⟨hn, hr, hl, hp⟩
    have hletter : c ∉ letters := by
      simp only [letters, List.mem_cons, List.not_mem_nil, or_false, not_or]
      exact ⟨hb, hd, hs⟩
    rw [if_neg hbreak, escaped, List.flatMap_singleton, escapeChar, if_neg hletter]

theorem encodeFrom_eq (out text : List Char) :
    encodeFrom out text = out.reverse ++ escaped (withBreaks marker text) := by
  fun_induction encodeFrom out text with
  | case1 out =>
    rw [withBreaks, escaped, List.flatMap_nil, List.append_nil]
  | case2 out rest ih =>
    have hmarker : escaped marker = marker := by decide
    rw [ih, withBreaks, escaped_append, hmarker, List.reverse_append, List.reverse_reverse,
      List.append_assoc]
  | case3 out c rest hpair ih =>
    rw [ih, withBreaks, escaped_append, ← encodeChar_eq, List.reverse_append, List.reverse_reverse,
      List.append_assoc]
    exact hpair

theorem toList_encode (source : String) :
    (encode source).toList = escaped (withBreaks marker source.toList) := by
  rw [encode, String.toList_ofList, encodeFrom_eq]
  rfl

theorem lineBreak_notMem_withBreaks {mark : List Char} {b : Char} (hb : b ∈ lineBreaks)
    (hmark : b ∉ mark) (text : List Char) : b ∉ withBreaks mark text := by
  fun_induction withBreaks mark text with
  | case1 => exact List.not_mem_nil
  | case2 rest ih =>
    rw [List.mem_append, not_or]
    exact ⟨hmark, ih⟩
  | case3 c rest _ ih =>
    rw [List.mem_append, not_or]
    refine ⟨?_, ih⟩
    split
    · exact hmark
    · next hc =>
      rw [List.mem_singleton]
      rintro rfl
      exact hc hb

theorem notMem_escaped {text : List Char} {b : Char} (hb : b ≠ '\\') (htext : b ∉ text) :
    b ∉ escaped text := by
  intro h
  obtain ⟨c, hc, hbc⟩ := List.mem_flatMap.1 h
  have hne : b ≠ c := by
    rintro rfl
    exact htext hc
  rcases escapeChar_cases c with ⟨-, hchar⟩ | ⟨-, -, hchar⟩
  · rw [hchar] at hbc
    simp [hb, hne] at hbc
  · rw [hchar] at hbc
    exact hne (List.mem_singleton.1 hbc)

theorem lineBreak_notMem_encode (source : String) :
    ∀ b ∈ lineBreaks, b ∉ (encode source).toList := by
  have hbackslash : ∀ b ∈ lineBreaks, b ≠ '\\' := by simp [lineBreaks]
  have hmarker : ∀ b ∈ lineBreaks, b ∉ marker := by simp [lineBreaks, marker]
  intro b hb
  rw [toList_encode]
  exact notMem_escaped (hbackslash b hb) (lineBreak_notMem_withBreaks hb (hmarker b hb) _)

theorem unescape_escaped (text : List Char) : unescape letters (escaped text) = some text := by
  have hvalue : ∀ c ∈ letters, letterValue? c = some c := by simp [letters, letterValue?]
  induction text with
  | nil => rfl
  | cons c text ih =>
    rw [escaped_cons]
    rcases escapeChar_cases c with ⟨hc, hchar⟩ | ⟨-, hbackslash, hchar⟩
    · rw [hchar]
      exact (unescape_letter hc (hvalue c hc) _).trans (congrArg _ ih)
    · rw [hchar]
      exact (unescape_plain hbackslash _).trans (congrArg _ ih)

/-! Quotes and the backslashes before them. -/

def trailing (text : List Char) : Nat := (text.rtakeWhile (· == '\\')).length

theorem trailing_backslash (text : List Char) : trailing (text ++ ['\\']) = trailing text + 1 := by
  rw [trailing, List.rtakeWhile_concat_pos _ _ _ rfl, List.length_append]
  rfl

theorem trailing_of_ne {c : Char} (hc : c ≠ '\\') (text : List Char) :
    trailing (text ++ [c]) = 0 := by
  rw [trailing, List.rtakeWhile_concat_neg _ _ _ (by simpa using hc)]
  rfl

theorem even_trailing_escaped (text : List Char) : Even (trailing (escaped text)) := by
  induction text using List.reverseRecOn with
  | nil => exact Even.zero
  | append_singleton text c ih =>
    rw [escaped_concat]
    rcases escapeChar_cases c with ⟨-, hchar⟩ | ⟨-, hbackslash, hchar⟩
    · rw [hchar, List.append_cons]
      by_cases hc : c = '\\'
      · rw [hc, trailing_backslash, trailing_backslash]
        exact ih.add (by decide : Even 2)
      · rw [trailing_of_ne hc]
        exact Even.zero
    · rw [hchar, trailing_of_ne hbackslash]
      exact Even.zero

theorem before_quote_of_escapeChar {c q : Char} {before after : List Char} (hq : q ∈ ['\'', '"'])
    (h : escapeChar c = before ++ q :: after) : before = ['\\'] := by
  have hletter : ∀ q ∈ ['\'', '"'], q ∈ letters ∧ q ≠ '\\' := by simp [letters]
  rcases escapeChar_cases c with ⟨-, hchar⟩ | ⟨hc, -, hchar⟩
  · rw [hchar] at h
    rcases List.cons_eq_append_iff.1 h with ⟨-, hquote⟩ | ⟨tail, rfl, htail⟩
    · exact absurd (List.cons.inj hquote).1 (hletter q hq).2
    · rcases List.cons_eq_append_iff.1 htail with ⟨rfl, -⟩ | ⟨_, -, hnil⟩
      · rfl
      · simp at hnil
  · have hmem : q ∈ [c] := by
      rw [← hchar, h]
      simp
    exact absurd (List.mem_singleton.1 hmem ▸ (hletter q hq).1) hc

theorem odd_trailing_before_quote {text before after : List Char} {q : Char} (hq : q ∈ ['\'', '"'])
    (h : escaped text = before ++ q :: after) : Odd (trailing before) := by
  induction text using List.reverseRecOn generalizing after with
  | nil => simp [escaped] at h
  | append_singleton text c ih =>
    rw [escaped_concat] at h
    -- The quote belongs to the last character, or else stands in what is before that.
    rcases List.append_eq_append_iff.1 h with ⟨added, rfl, hchar⟩ | ⟨rest, htext, hrest⟩
    · rw [before_quote_of_escapeChar hq hchar, trailing_backslash]
      exact (even_trailing_escaped text).add_one
    · cases rest with
      | nil =>
        have hchar : escapeChar c = [] ++ q :: after := hrest.symm
        exact nomatch before_quote_of_escapeChar hq hchar
      | cons d rest =>
        obtain ⟨rfl, -⟩ := List.cons.inj hrest
        exact ih htext

/-- The text up to the first double quote that is not escaped, and what follows that quote. -/
def untilQuote : List Char → Option (List Char × List Char)
  | [] => none
  | '\\' :: c :: rest => (untilQuote rest).map fun (inside, after) => ('\\' :: c :: inside, after)
  | c :: rest =>
    if c = '"' then some ([], rest)
    else (untilQuote rest).map fun (inside, after) => (c :: inside, after)

theorem untilQuote_escaped (text rest : List Char) :
    untilQuote (escaped text ++ '"' :: rest) = some (escaped text, rest) := by
  induction text with
  | nil => rfl
  | cons c text ih =>
    rw [escaped_cons, List.append_assoc]
    rcases escapeChar_cases c with ⟨-, hchar⟩ | ⟨hc, hbackslash, hchar⟩
    · rw [hchar, List.cons_append, List.cons_append, List.nil_append, untilQuote, ih]
      rfl
    · have hquote : c ≠ '"' := by
        rintro rfl
        exact hc (by decide)
      rw [hchar, List.singleton_append, untilQuote, if_neg hquote, ih]
      · rfl
      · intro d tail h
        exact absurd h hbackslash

/-- The copy stays on one line; every quote in it is escaped; the first quote after it that is not
escaped ends it; and its value is the template with the marker in place of each line break. -/
theorem encode_is_one_literal (source : String) :
    (∀ b ∈ lineBreaks, b ∉ (encode source).toList) ∧
      (∀ before after : List Char, ∀ q ∈ ['\'', '"'],
        (encode source).toList = before ++ q :: after → Odd (trailing before)) ∧
      Even (trailing (encode source).toList) ∧
      (∀ rest : List Char,
        untilQuote ((encode source).toList ++ '"' :: rest) = some ((encode source).toList, rest)) ∧
      unescape letters (encode source).toList = some (withBreaks marker source.toList) := by
  refine ⟨lineBreak_notMem_encode source, ?_⟩
  rw [toList_encode]
  exact ⟨fun _ _ _ hq h => odd_trailing_before_quote hq h, even_trailing_escaped _,
    untilQuote_escaped _, unescape_escaped _⟩

theorem encode_is_one_literal_quoting :
    '\r' ∈ lineBreaks ∧ '\r' ∉ (encode "\r\n\\\"").toList ∧
      (encode "\r\n\\\"").toList = (marker ++ ['\\', '\\', '\\']) ++ '"' :: [] ∧
      Odd (trailing (marker ++ ['\\', '\\', '\\'])) := by
  have hbreak : '\r' ∈ lineBreaks := by decide
  have hcopy : (encode "\r\n\\\"").toList = (marker ++ ['\\', '\\', '\\']) ++ '"' :: [] := by decide
  obtain ⟨hline, hquote, -⟩ := encode_is_one_literal "\r\n\\\""
  exact ⟨hbreak, hline '\r' hbreak, hcopy, hquote _ _ '"' (by decide) hcopy⟩

end TemplateCode.Script.DebugCopy
