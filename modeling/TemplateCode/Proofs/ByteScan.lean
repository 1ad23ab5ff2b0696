import Mathlib.Tactic.SplitIfs
import TemplateCode.Proofs.Literal

/-! The end of a literal, looked for byte by byte in the text's UTF-8 form. A backslash then takes only
the next byte with it, which may be the first of several that a character has; the others are never
mistaken for a quote or a line break, so the bytes and the characters lead to the same place. -/

namespace TemplateCode.Script.Literal

def utf8 (text : List Char) : List UInt8 := text.flatMap String.utf8EncodeChar

theorem utf8_cons (c : Char) (text : List Char) :
    utf8 (c :: text) = String.utf8EncodeChar c ++ utf8 text := List.flatMap_cons

theorem length_utf8_concat (text : List Char) (c : Char) :
    (utf8 (text ++ [c])).length = (utf8 text).length + (String.utf8EncodeChar c).length := by
  rw [utf8, List.flatMap_append, List.flatMap_singleton, List.length_append]
  rfl

theorem data_toByteArray (s : String) : s.toByteArray.data.toList = utf8 s.toList := by
  have hbytes : s.toByteArray = s.toList.utf8Encode := by
    rw [← String.toByteArray_ofList, String.ofList_toList]
  rw [hbytes, List.utf8Encode, List.data_toByteArray]
  rfl

theorem length_utf8 (s : String) : (utf8 s.toList).length = s.utf8ByteSize := by
  rw [← data_toByteArray, ← String.size_toByteArray]
  rfl

/-- The place of the closing quote, looked for from the byte at `i` on. A backslash takes the next byte
with it. -/
def closingByte? (bytes : List UInt8) (i : Nat) : Option Nat :=
  if h : i < bytes.length then
    if bytes[i] = 0x5C then closingByte? bytes (i + 2)
    else if bytes[i] = 0x27 then if utf8 closer <+: bytes.drop i then some i else none
    else if bytes[i] = 0x0A ∨ bytes[i] = 0x0D then none
    else closingByte? bytes (i + 1)
  else none
termination_by bytes.length - i

theorem closingByte?_append (before bytes : List UInt8) (i : Nat) :
    closingByte? (before ++ bytes) (before.length + i) =
      (closingByte? bytes i).map (before.length + ·) := by
  have hget : ∀ (i : Nat) (h : i < bytes.length) (h' : before.length + i < (before ++ bytes).length),
      (before ++ bytes)[before.length + i] = bytes[i] := by
    intro i h h'
    rw [List.getElem_append_right (Nat.le_add_right _ _)]
    simp only [Nat.add_sub_cancel_left]
  have hlength : ∀ i, before.length + i < (before ++ bytes).length ↔ i < bytes.length := by
    intro i
    rw [List.length_append]
    omega
  fun_induction closingByte? bytes i with
  | case1 i h hbyte ih =>
    rw [closingByte?, dif_pos ((hlength i).2 h), hget i h, if_pos hbyte]
    exact ih
  | case2 i h hbyte hquote hcloser =>
    rw [closingByte?, dif_pos ((hlength i).2 h), hget i h, if_neg hbyte, if_pos hquote,
      List.drop_length_add_append, if_pos hcloser]
    rfl
  | case3 i h hbyte hquote hcloser =>
    rw [closingByte?, dif_pos ((hlength i).2 h), hget i h, if_neg hbyte, if_pos hquote,
      List.drop_length_add_append, if_neg hcloser]
    rfl
  | case4 i h hbyte hquote hbreak =>
    rw [closingByte?, dif_pos ((hlength i).2 h), hget i h, if_neg hbyte, if_neg hquote, if_pos hbreak]
    rfl
  | case5 i h hbyte hquote hbreak ih =>
    rw [closingByte?, dif_pos ((hlength i).2 h), hget i h, if_neg hbyte, if_neg hquote, if_neg hbreak]
    exact ih
  | case6 i h =>
    rw [closingByte?, dif_neg (mt (hlength i).1 h)]
    rfl

theorem map_add_map_add (found : Option Nat) (i j : Nat) :
    (found.map (j + ·)).map (i + ·) = found.map (i + j + ·) := by
  rw [Option.map_map]
  congr 1
  funext n
  exact (Nat.add_assoc i j n).symm

def PlainByte (b : UInt8) : Prop := b ≠ 0x5C ∧ b ≠ 0x27 ∧ b ≠ 0x0A ∧ b ≠ 0x0D

theorem plainByte_of_high {b : UInt8} (h : 0x80 ≤ b.toNat) : PlainByte b := by
  refine ⟨?_, ?_, ?_, ?_⟩
  all_goals
    rintro rfl
    revert h
    decide

theorem closingByte?_plain {b : UInt8} (hb : PlainByte b) (bytes : List UInt8) :
    closingByte? (b :: bytes) 0 = (closingByte? bytes 0).map (1 + ·) := by
  obtain ⟨hbackslash, hquote, hnewline, hreturn⟩ := hb
  have hstep : closingByte? (b :: bytes) 0 = closingByte? (b :: bytes) 1 := by
    rw [closingByte?]
    simp [hbackslash, hquote, hnewline, hreturn]
  rw [hstep]
  exact closingByte?_append [b] bytes 0

theorem closingByte?_plain_append {bs : List UInt8} (hbs : ∀ b ∈ bs, PlainByte b)
    (bytes : List UInt8) :
    closingByte? (bs ++ bytes) 0 = (closingByte? bytes 0).map (bs.length + ·) := by
  induction bs with
  | nil => simp
  | cons b bs ih =>
    rw [List.forall_mem_cons] at hbs
    rw [List.cons_append, closingByte?_plain hbs.1, ih hbs.2, map_add_map_add, List.length_cons,
      Nat.add_comm 1]

theorem closingByte?_backslash (b : UInt8) (bytes : List UInt8) :
    closingByte? (0x5C :: b :: bytes) 0 = (closingByte? bytes 0).map (2 + ·) := by
  have hstep : closingByte? (0x5C :: b :: bytes) 0 = closingByte? (0x5C :: b :: bytes) 2 := by
    rw [closingByte?]
    simp
  rw [hstep]
  exact closingByte?_append [0x5C, b] bytes 0

theorem closingByte?_quote (bytes : List UInt8) :
    closingByte? (0x27 :: bytes) 0 = if utf8 closer <+: 0x27 :: bytes then some 0 else none := by
  rw [closingByte?]
  simp

theorem closingByte?_end {bytes : List UInt8}
    (h : bytes = [] ∨ bytes = [0x5C] ∨ bytes.head? = some 0x0A ∨ bytes.head? = some 0x0D) :
    closingByte? bytes 0 = none := by
  rw [closingByte?]
  rcases h with rfl | rfl | h | h
  · rfl
  · show closingByte? [0x5C] 2 = none
    rw [closingByte?]
    rfl
  · obtain ⟨rest, rfl⟩ := List.head?_eq_some_iff.1 h
    simp
  · obtain ⟨rest, rfl⟩ := List.head?_eq_some_iff.1 h
    simp

theorem utf8EncodeChar_cases (c : Char) :
    (c.toNat < 0x80 ∧ String.utf8EncodeChar c = [UInt8.ofNat c.toNat]) ∨
      (0x80 ≤ c.toNat ∧ ∀ b ∈ String.utf8EncodeChar c, 0x80 ≤ b.toNat) := by
  have hval : c.val.toNat = c.toNat := rfl
  simp only [String.utf8EncodeChar, hval]
  split_ifs with h₁ h₂ h₃
  · exact .inl ⟨by omega, rfl⟩
  all_goals
    refine .inr ⟨by omega, ?_⟩
    simp only [List.forall_mem_cons, List.not_mem_nil, false_imp_iff, implies_true, and_true,
      UInt8.toNat_ofNat']
    omega

theorem utf8EncodeChar_eq_cons (c : Char) : ∃ b bs, String.utf8EncodeChar c = b :: bs := by
  apply List.exists_cons_of_length_pos
  rw [String.length_utf8EncodeChar]
  exact c.utf8Size_pos

theorem ofNat_eq_iff {c : Char} (hc : c.toNat < 0x80) {b : UInt8} :
    UInt8.ofNat c.toNat = b ↔ c.toNat = b.toNat := by
  rw [← UInt8.toNat_inj, UInt8.toNat_ofNat', Nat.mod_eq_of_lt (by omega)]

theorem plainByte_utf8 {c : Char} (hc : Plain c) : ∀ b ∈ String.utf8EncodeChar c, PlainByte b := by
  rcases utf8EncodeChar_cases c with ⟨hlow, hbytes⟩ | ⟨-, hhigh⟩
  · obtain ⟨hbackslash, hquote, hnewline, hreturn⟩ := hc
    have hne : ∀ {d : Char} {b : UInt8}, c ≠ d → d.toNat = b.toNat → UInt8.ofNat c.toNat ≠ b := by
      intro d b hd hb h
      rw [ofNat_eq_iff hlow, ← hb] at h
      exact hd (Char.toNat_inj.1 h)
    rw [hbytes, List.forall_mem_singleton]
    exact ⟨hne hbackslash rfl, hne hquote rfl, hne hnewline rfl, hne hreturn rfl⟩
  · exact fun b hb => plainByte_of_high (hhigh b hb)

theorem utf8EncodeChar_eq_cons_high (c : Char) :
    ∃ b bs, String.utf8EncodeChar c = b :: bs ∧ ∀ d ∈ bs, 0x80 ≤ d.toNat := by
  obtain ⟨b, bs, hbytes⟩ := utf8EncodeChar_eq_cons c
  refine ⟨b, bs, hbytes, fun d hd => ?_⟩
  rcases utf8EncodeChar_cases c with ⟨-, hone⟩ | ⟨-, hhigh⟩
  · rw [hbytes, List.cons.injEq] at hone
    rw [hone.2] at hd
    exact absurd hd List.not_mem_nil
  · exact hhigh d (hbytes ▸ List.mem_cons_of_mem b hd)

theorem closingByte?_escape (c : Char) (bytes : List UInt8) :
    closingByte? (0x5C :: (String.utf8EncodeChar c ++ bytes)) 0 =
      (closingByte? bytes 0).map (1 + (String.utf8EncodeChar c).length + ·) := by
  obtain ⟨b, bs, hbytes, hhigh⟩ := utf8EncodeChar_eq_cons_high c
  have hbs : ∀ d ∈ bs, PlainByte d := fun d hd => plainByte_of_high (hhigh d hd)
  have hlength : 1 + (b :: bs).length = 2 + bs.length := by
    rw [List.length_cons]
    omega
  rw [hbytes, List.cons_append, closingByte?_backslash, closingByte?_plain_append hbs,
    map_add_map_add, hlength]

/-- Bytes of ASCII are found in a text only where the characters stand. -/
theorem utf8_prefix_iff {word text : List Char} (hword : ∀ c ∈ word, c.toNat < 0x80) :
    utf8 word <+: utf8 text ↔ word <+: text := by
  induction word generalizing text with
  | nil => simp [utf8]
  | cons c word ih =>
    rw [List.forall_mem_cons] at hword
    have hone : String.utf8EncodeChar c = [UInt8.ofNat c.toNat] := by
      rcases utf8EncodeChar_cases c with ⟨-, hone⟩ | ⟨hhigh, -⟩
      · exact hone
      · omega
    cases text with
    | nil => simp [utf8, hone]
    | cons d text =>
      rw [utf8_cons, utf8_cons, hone, List.cons_prefix_cons]
      rcases utf8EncodeChar_cases d with ⟨hlow, hd⟩ | ⟨hhigh, hd⟩
      · rw [hd, List.singleton_append, List.singleton_append, List.cons_prefix_cons, ih hword.2,
          ofNat_eq_iff hword.1, UInt8.toNat_ofNat', Nat.mod_eq_of_lt (by omega), Char.toNat_inj]
      · obtain ⟨b, bs, hbytes⟩ := utf8EncodeChar_eq_cons d
        have hb : 0x80 ≤ b.toNat := hd b (hbytes ▸ List.mem_cons_self)
        rw [hbytes, List.singleton_append, List.cons_append, List.cons_prefix_cons,
          ofNat_eq_iff hword.1]
        constructor
        · rintro ⟨h, -⟩
          omega
        · rintro ⟨rfl, -⟩
          omega

theorem closingByte?_utf8_from (seen body : List Char) :
    (closingByte? (utf8 body) 0).map ((utf8 seen.reverse).length + ·) =
      (scan seen body).map fun found => (utf8 found.1).length := by
  fun_induction scan seen body with
  | case1 seen =>
    have hnone : closingByte? (utf8 []) 0 = none := closingByte?_end (.inl rfl)
    rw [hnone]
    rfl
  | case2 seen =>
    have hnone : closingByte? (utf8 ['\\']) 0 = none := closingByte?_end (.inr (.inl rfl))
    rw [hnone]
    rfl
  | case3 seen c rest ih =>
    have hbackslash : String.utf8EncodeChar '\\' = [0x5C] := rfl
    rw [utf8_cons, utf8_cons, hbackslash, List.singleton_append, closingByte?_escape, ← ih,
      map_add_map_add, List.reverse_cons, List.reverse_cons, length_utf8_concat, length_utf8_concat,
      hbackslash, List.length_singleton, Nat.add_assoc]
  | case4 seen rest =>
    have hfound : closingByte? (utf8 ('\'' :: ')' :: ';' :: rest)) 0 = some 0 := by
      refine (closingByte?_quote _).trans (if_pos ?_)
      exact List.prefix_append (utf8 closer) (utf8 rest)
    rw [hfound]
    rfl
  | case5 seen c rest _ _ hcloser hstop =>
    have hnone : closingByte? (utf8 (c :: rest)) 0 = none := by
      rcases hstop with rfl | rfl | rfl
      · refine (closingByte?_quote _).trans (if_neg ?_)
        intro h
        have hprefix : closer <+: '\'' :: rest := (utf8_prefix_iff (by simp [closer])).1 h
        obtain ⟨tail, htail⟩ := hprefix
        exact hcloser tail rfl (List.cons.inj htail).2.symm
      · exact closingByte?_end (.inr (.inr (.inl rfl)))
      · exact closingByte?_end (.inr (.inr (.inr rfl)))
    rw [hnone]
    rfl
  | case6 seen c rest hlone hmore _ hstop ih =>
    have hbackslash : c ≠ '\\' := by
      intro hc
      cases rest with
      | nil => exact hlone hc rfl
      | cons d rest => exact hmore d rest hc rfl
    rw [not_or, not_or] at hstop
    rw [utf8_cons, closingByte?_plain_append (plainByte_utf8 ⟨hbackslash, hstop⟩), ← ih,
      map_add_map_add, List.reverse_cons, length_utf8_concat]

theorem closingByte?_utf8 (body : List Char) :
    closingByte? (utf8 body) 0 = (split? body).map fun found => (utf8 found.1).length := by
  have hnothing : ((utf8 ([] : List Char).reverse).length + ·) = id := by
    funext n
    exact Nat.zero_add n
  have h := closingByte?_utf8_from [] body
  rwa [hnothing, Option.map_id] at h

end TemplateCode.Script.Literal
