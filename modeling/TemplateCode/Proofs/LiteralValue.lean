import TemplateCode.Json.Token
import TemplateCode.Proofs.ByteScan

/-! The value of a literal: what its content stands for once the escapes are undone. The encoding of a
text stays on one line, the scan finds its end, and its value is the text. -/

namespace TemplateCode.Script

def letterValue? : Char → Option Char
  | '\\' => some '\\'
  | '\'' => some '\''
  | '"' => some '"'
  | 'n' => some '\n'
  | 'r' => some '\r'
  | _ => none

def codeValue? (digits : List Char) : Option Char := do
  let code := (← digits.mapM Json.hexValue?).foldl (16 * · + ·) 0
  if code.isValidChar then some (Char.ofNat code) else none

/-- Undoes the escapes with the given letters from left to right; after `u` four digits give a code.
Any other backslash refuses. -/
def unescape (letters : List Char) : List Char → Option (List Char)
  | [] => some []
  | '\\' :: 'u' :: a :: b :: c :: d :: rest =>
    if 'u' ∈ letters then
      (codeValue? [a, b, c, d]).bind fun e => (unescape letters rest).map (e :: ·)
    else none
  | '\\' :: c :: rest =>
    if c ∈ letters then (letterValue? c).bind fun d => (unescape letters rest).map (d :: ·)
    else none
  | c :: rest => if c = '\\' then none else (unescape letters rest).map (c :: ·)

section Unescape

variable {letters : List Char} {c d : Char}

theorem unescape_plain (hc : c ≠ '\\') (rest : List Char) :
    unescape letters (c :: rest) = (unescape letters rest).map (c :: ·) := by
  rw [unescape, if_neg hc]
  · intro _ _ _ _ _ h
    exact absurd h hc
  · intro _ _ h
    exact absurd h hc

theorem unescape_letter (hc : c ∈ letters) (hvalue : letterValue? c = some d) (rest : List Char) :
    unescape letters ('\\' :: c :: rest) = (unescape letters rest).map (d :: ·) := by
  have hu : c ≠ 'u' := by
    rintro rfl
    cases hvalue
  rw [unescape, if_pos hc, hvalue, Option.bind_some]
  intro _ _ _ _ _ h
  exact absurd h hu

end Unescape

namespace Literal

def letters : List Char := ['\\', '\'', 'n', 'r', 'u']

theorem unescape_encodeChar (c : Char) (rest : List Char) :
    unescape letters (encodeChar c ++ rest) = (unescape letters rest).map (c :: ·) := by
  fun_cases encodeChar c with
  | case1 | case2 | case3 | case4 => exact unescape_letter (by decide) rfl rest
  | case5 | case6 => rfl
  | case7 _ hbackslash => exact unescape_plain hbackslash rest

theorem unescape_encoded (text : List Char) : unescape letters (encoded text) = some text := by
  induction text with
  | nil => rfl
  | cons c text ih => rw [encoded, List.flatMap_cons, unescape_encodeChar, ih, Option.map_some]

/-- The scan of a pushed text finds the encoding of the text and what follows the push, also when it
goes by bytes; no line ends in the encoding, and its value is the text. -/
theorem encode_reads_back (text rest : String) :
    split? (encode text ++ "');" ++ rest).toList = some ((encode text).toList, rest.toList) ∧
      closingByte? (encode text ++ "');" ++ rest).toByteArray.data.toList 0 =
        some (encode text).utf8ByteSize ∧
      (∀ c ∈ lineBreaks, c ∉ (encode text).toList) ∧
      unescape letters (encode text).toList = some text.toList := by
  have hsplit : split? (encode text ++ "');" ++ rest).toList =
      some ((encode text).toList, rest.toList) := by
    rw [String.toList_append, String.toList_append, toList_encode]
    exact scan_append (enclosed_encoded text.toList) [] rest.toList
  refine ⟨hsplit, ?_, ?_, ?_⟩
  · rw [data_toByteArray, closingByte?_utf8, hsplit, Option.map_some, length_utf8]
  · rw [toList_encode]
    exact lineBreak_notMem_encoded text.toList
  · rw [toList_encode]
    exact unescape_encoded text.toList

theorem encode_reads_back_misleading :
    '\n' ∈ lineBreaks ∧ '\n' ∉ (encode "\\n');\n\\").toList := by
  have hbreak : '\n' ∈ lineBreaks := by decide
  obtain ⟨-, -, hline, -⟩ := encode_reads_back "\\n');\n\\" "');"
  exact ⟨hbreak, hline '\n' hbreak⟩

end Literal

end TemplateCode.Script
