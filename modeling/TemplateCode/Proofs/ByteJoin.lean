import TemplateCode.Proofs.ByteScan
import TemplateCode.Proofs.Outcome
import TemplateCode.Proofs.Tokens

/-! Joining pushes in the UTF-8 form of a script, where texts are searched, measured and sliced by
bytes. Every slice lies in its text and has its ends between characters, every round leaves a
shorter text, and what comes out is the UTF-8 form of the joined script. -/

namespace TemplateCode.Script

open Literal (utf8 utf8_cons closingByte? closer split?)

inductive SliceFault where
  | outOfRange
  | insideCharacter
  deriving DecidableEq, Repr

def checkCut (bytes : List UInt8) (i : Nat) : Except SliceFault Unit :=
  if bytes.length < i then .error .outOfRange
  else if i = 0 ∨ i = bytes.length ∨ ∃ b ∈ bytes[i]?, b.IsUTF8FirstByte then .ok ()
  else .error .insideCharacter

def sliceTo (bytes : List UInt8) (i : Nat) : Except SliceFault (List UInt8) :=
  (fun _ => bytes.take i) <$> checkCut bytes i

def sliceFrom (bytes : List UInt8) (i : Nat) : Except SliceFault (List UInt8) :=
  (fun _ => bytes.drop i) <$> checkCut bytes i

/-- The length of the literal that a text begins with, looked for from the byte at `i` on. -/
def literalLength (bytes : List UInt8) (i : Nat) : Except SliceFault (Option Nat) :=
  if h : i < bytes.length then
    if bytes[i] = 0x5C then literalLength bytes (i + 2)
    else if bytes[i] = 0x27 then
      (fun tail => if utf8 closer <+: tail then some i else none) <$> sliceFrom bytes i
    else if bytes[i] = 0x0A ∨ bytes[i] = 0x0D then .ok none
    else literalLength bytes (i + 1)
  else .ok none
termination_by bytes.length - i

def place? (word : List UInt8) : List UInt8 → Option Nat
  | [] => if word = [] then some 0 else none
  | b :: bytes => if word <+: b :: bytes then some 0 else (place? word bytes).map (1 + ·)

/-- The literal push that follows after newlines: the text from its content on, and the length of
that content. -/
def followingBytes (bytes : List UInt8) : Except SliceFault (Option (List UInt8 × Nat)) :=
  if (bytes.dropWhile (· == 0x0A)).length = bytes.length then .ok none
  else
    match (utf8 Push.opener).isPrefixOf? (bytes.dropWhile (· == 0x0A)) with
    | none => .ok none
    | some body => (Option.map fun length => (body, length)) <$> literalLength body 0

structure Progress where
  out : List UInt8
  rest : List UInt8

def absorbStep (p : Progress) : Except SliceFault (Option Progress) := do
  match ← followingBytes p.rest with
  | none => return none
  | some (next, length) =>
    let content ← sliceTo next length
    let rest ← sliceFrom next (length + (utf8 closer).length)
    return some ⟨p.out ++ content, rest⟩

section Shrinking

variable {bytes part : List UInt8} {i : Nat} {p q : Progress}

theorem le_length_of_checkCut {u : Unit} (h : checkCut bytes i = .ok u) : i ≤ bytes.length := by
  unfold checkCut at h
  split at h
  · cases h
  · omega

theorem sliceFrom_eq_ok_iff :
    sliceFrom bytes i = .ok part ↔ checkCut bytes i = .ok () ∧ part = bytes.drop i := by
  rw [sliceFrom, map_eq_ok_iff]
  exact ⟨fun ⟨_, hcut, hpart⟩ => ⟨hcut, hpart.symm⟩, fun ⟨hcut, hpart⟩ => ⟨(), hcut, hpart.symm⟩⟩

theorem length_sliceFrom (h : sliceFrom bytes i = .ok part) : part.length + i = bytes.length := by
  obtain ⟨hcut, rfl⟩ := sliceFrom_eq_ok_iff.1 h
  have := le_length_of_checkCut hcut
  rw [List.length_drop]
  omega

theorem length_following {next : List UInt8} {length : Nat}
    (h : followingBytes bytes = .ok (some (next, length))) : next.length < bytes.length := by
  unfold followingBytes at h
  split at h
  · cases h
  · split at h
    · cases h
    · next body hbody =>
      obtain ⟨found, -, hfound⟩ := map_eq_ok_iff.1 h
      obtain ⟨_, -, hnext⟩ := Option.map_eq_some_iff.1 hfound
      cases hnext
      have hafter := congrArg List.length (isPrefixOf?_eq_some_iff.1 hbody)
      have hdropped := (List.dropWhile_sublist (p := (· == 0x0A)) (l := bytes)).length_le
      rw [List.length_append] at hafter
      have hopener : 0 < (utf8 Push.opener).length := by decide
      omega

theorem absorbStep_shrinks (h : absorbStep p = .ok (some q)) :
    q.rest.length < p.rest.length := by
  unfold absorbStep at h
  obtain ⟨found, hfound, hnext⟩ := bind_eq_ok_iff.1 h
  cases found with
  | none => cases hnext
  | some found =>
    obtain ⟨next, length⟩ := found
    obtain ⟨content, -, hrest⟩ := bind_eq_ok_iff.1 hnext
    obtain ⟨rest, hslice, hq⟩ := bind_eq_ok_iff.1 hrest
    cases hq
    have hnext := length_following hfound
    have hslice := length_sliceFrom hslice
    dsimp only
    omega

end Shrinking

/-- A round of a loop: what it makes of the progress so far, or nothing if the loop is over. Every
round leaves less to read. -/
structure Round where
  run : Progress → Except SliceFault (Option Progress)
  shrinks : ∀ {p q}, run p = .ok (some q) → q.rest.length < p.rest.length

namespace Round

variable {round : Round} {p q : Progress}

def exhaust (round : Round) (p : Progress) : Except SliceFault Progress :=
  match _h : round.run p with
  | .error fault => .error fault
  | .ok none => .ok p
  | .ok (some q) => round.exhaust q
termination_by p.rest.length
decreasing_by exact round.shrinks _h

theorem exhaust_of_none (h : round.run p = .ok none) : round.exhaust p = .ok p := by
  rw [exhaust]
  split <;> simp_all

theorem exhaust_of_some (h : round.run p = .ok (some q)) : round.exhaust p = round.exhaust q := by
  rw [exhaust]
  split <;> simp_all

theorem length_exhaust (h : round.exhaust p = .ok q) : q.rest.length ≤ p.rest.length := by
  fun_induction exhaust round p with
  | case1 => cases h
  | case2 p hnone =>
    cases h
    exact Nat.le_refl _
  | case3 p next hnext ih => exact Nat.le_trans (ih h) (Nat.le_of_lt (round.shrinks hnext))

end Round

def absorbing : Round := ⟨absorbStep, absorbStep_shrinks⟩

def joinStep (p : Progress) : Except SliceFault (Option Progress) := do
  match place? (utf8 Push.opener) p.rest with
  | none => return none
  | some i =>
    let before ← sliceTo p.rest (i + (utf8 Push.opener).length)
    let body ← sliceFrom p.rest (i + (utf8 Push.opener).length)
    match ← literalLength body 0 with
    | none => return some ⟨p.out ++ before, body⟩
    | some length =>
      let content ← sliceTo body length
      let rest ← sliceFrom body (length + (utf8 closer).length)
      let q ← absorbing.exhaust ⟨p.out ++ before ++ content, rest⟩
      return some ⟨q.out ++ utf8 closer, q.rest⟩

theorem joinStep_shrinks {p q : Progress} (h : joinStep p = .ok (some q)) :
    q.rest.length < p.rest.length := by
  unfold joinStep at h
  split at h
  · cases h
  · next i _ =>
    obtain ⟨before, -, hbody⟩ := bind_eq_ok_iff.1 h
    obtain ⟨body, hslice, hlength⟩ := bind_eq_ok_iff.1 hbody
    obtain ⟨found, -, hfound⟩ := bind_eq_ok_iff.1 hlength
    have hbody := length_sliceFrom hslice
    have hopener : 0 < (utf8 Push.opener).length := by decide
    cases found with
    | none =>
      cases hfound
      dsimp only
      omega
    | some length =>
      obtain ⟨content, -, hrest⟩ := bind_eq_ok_iff.1 hfound
      obtain ⟨rest, hslice, hrounds⟩ := bind_eq_ok_iff.1 hrest
      obtain ⟨r, hr, hq⟩ := bind_eq_ok_iff.1 hrounds
      cases hq
      have hrest := length_sliceFrom hslice
      have hr := Round.length_exhaust hr
      dsimp only at hr ⊢
      omega

def joining : Round := ⟨joinStep, joinStep_shrinks⟩

def joinBytes (bytes : List UInt8) : Except SliceFault (List UInt8) := do
  let p ← joining.exhaust ⟨[], bytes⟩
  return p.out ++ p.rest

section Cuts

variable {text : List Char} {i : Nat}

theorem utf8_append (before after : List Char) :
    utf8 (before ++ after) = utf8 before ++ utf8 after := List.flatMap_append

theorem checkCut_eq_ok_iff {bytes : List UInt8} :
    checkCut bytes i = .ok () ↔
      i ≤ bytes.length ∧ (i = 0 ∨ i = bytes.length ∨ ∃ b ∈ bytes[i]?, b.IsUTF8FirstByte) := by
  rw [checkCut]
  split_ifs with hrange hcut
  · simp only [false_iff, not_and]
    omega
  · simp only [hcut, and_true, true_iff]
    omega
  · simp only [hcut, and_false]

theorem firstByte_utf8_cons (c : Char) (rest : List Char)
    (hi : i < (String.utf8EncodeChar c).length) :
    (∃ b ∈ (utf8 (c :: rest))[i]?, b.IsUTF8FirstByte) ↔ i = 0 := by
  have hbyte : (utf8 (c :: rest))[i]? = some (String.utf8EncodeChar c)[i] := by
    rw [utf8_cons, List.getElem?_append_left hi, List.getElem?_eq_getElem hi]
  rw [hbyte]
  simp only [Option.mem_some_iff, exists_eq_left', UInt8.isUTF8FirstByte_getElem_utf8EncodeChar]

theorem checkCut_utf8 (before after : List Char) :
    checkCut (utf8 (before ++ after)) (utf8 before).length = .ok () := by
  rw [utf8_append, checkCut_eq_ok_iff, List.length_append]
  refine ⟨Nat.le_add_right _ _, ?_⟩
  cases after with
  | nil => exact .inr (.inl rfl)
  | cons c after =>
    have hsize : 0 < (String.utf8EncodeChar c).length := by
      rw [String.length_utf8EncodeChar]
      exact c.utf8Size_pos
    rw [List.getElem?_append_right (Nat.le_refl _), Nat.sub_self]
    exact .inr (.inr ((firstByte_utf8_cons c after hsize).2 rfl))

theorem checkCut_utf8_eq_ok_iff :
    checkCut (utf8 text) i = .ok () ↔
      ∃ before after, text = before ++ after ∧ (utf8 before).length = i := by
  constructor
  · intro h
    induction text generalizing i with
    | nil => exact ⟨[], [], rfl, (Nat.le_zero.1 (le_length_of_checkCut h)).symm⟩
    | cons c rest ih =>
      obtain ⟨hrange, hcut⟩ := checkCut_eq_ok_iff.1 h
      by_cases hinside : i < (String.utf8EncodeChar c).length
      · rw [firstByte_utf8_cons c rest hinside] at hcut
        rw [utf8_cons, List.length_append] at hcut
        have hstart : i = 0 := by omega
        exact ⟨[], c :: rest, rfl, hstart.symm⟩
      · obtain ⟨j, rfl⟩ := Nat.exists_eq_add_of_le (Nat.not_lt.1 hinside)
        rw [utf8_cons, List.length_append] at hrange hcut
        rw [List.getElem?_append_right (Nat.le_add_right _ _), Nat.add_sub_cancel_left] at hcut
        have hrest : checkCut (utf8 rest) j = .ok () := by
          refine checkCut_eq_ok_iff.2 ⟨by omega, ?_⟩
          rcases hcut with hstart | hend | hfirst
          · exact .inl (by omega)
          · exact .inr (.inl (by omega))
          · exact .inr (.inr hfirst)
        obtain ⟨before, after, rfl, rfl⟩ := ih hrest
        exact ⟨c :: before, after, rfl, by rw [utf8_cons, List.length_append]⟩
  · rintro ⟨before, after, rfl, rfl⟩
    exact checkCut_utf8 before after

theorem sliceTo_utf8 (before after : List Char) :
    sliceTo (utf8 (before ++ after)) (utf8 before).length = .ok (utf8 before) := by
  rw [sliceTo, checkCut_utf8, utf8_append, List.take_left]
  rfl

theorem sliceFrom_utf8 (before after : List Char) :
    sliceFrom (utf8 (before ++ after)) (utf8 before).length = .ok (utf8 after) := by
  rw [sliceFrom, checkCut_utf8, utf8_append, List.drop_left]
  rfl

end Cuts

section Exactness

theorem sliceFrom_quote {bytes : List UInt8} {i : Nat} (h : i < bytes.length)
    (hquote : bytes[i] = 0x27) : sliceFrom bytes i = .ok (bytes.drop i) := by
  refine sliceFrom_eq_ok_iff.2
    ⟨checkCut_eq_ok_iff.2 ⟨Nat.le_of_lt h, .inr (.inr ⟨0x27, ?_, ?_⟩)⟩, rfl⟩
  · rw [List.getElem?_eq_getElem h, hquote]
    exact Option.mem_some_self _
  · decide

theorem literalLength_eq (bytes : List UInt8) (i : Nat) :
    literalLength bytes i = .ok (closingByte? bytes i) := by
  fun_induction closingByte? bytes i with
  | case1 i h hbyte ih => rw [literalLength, dif_pos h, if_pos hbyte, ih]
  | case2 i h hbyte hquote hcloser =>
    rw [literalLength, dif_pos h, if_neg hbyte, if_pos hquote, sliceFrom_quote h hquote]
    exact congrArg Except.ok (if_pos hcloser)
  | case3 i h hbyte hquote hcloser =>
    rw [literalLength, dif_pos h, if_neg hbyte, if_pos hquote, sliceFrom_quote h hquote]
    exact congrArg Except.ok (if_neg hcloser)
  | case4 i h hbyte hquote hbreak =>
    rw [literalLength, dif_pos h, if_neg hbyte, if_neg hquote, if_pos hbreak]
  | case5 i h hbyte hquote hbreak ih =>
    rw [literalLength, dif_pos h, if_neg hbyte, if_neg hquote, if_neg hbreak, ih]
  | case6 i h => rw [literalLength, dif_neg h]

theorem literalLength_utf8 (body : List Char) :
    literalLength (utf8 body) 0 = .ok ((split? body).map fun found => (utf8 found.1).length) := by
  rw [literalLength_eq, Literal.closingByte?_utf8]

theorem opener_ascii : ∀ c ∈ Push.opener, c.toNat < 0x80 := by simp [Push.opener]

theorem isPrefixOf?_utf8 {word : List Char} (hword : ∀ c ∈ word, c.toNat < 0x80)
    (text : List Char) :
    (utf8 word).isPrefixOf? (utf8 text) = (word.isPrefixOf? text).map utf8 := by
  cases hrest : word.isPrefixOf? text with
  | some rest =>
    rw [isPrefixOf?_eq_some_iff.1 hrest, utf8_append]
    exact isPrefixOf?_eq_some_iff.2 rfl
  | none =>
    refine isPrefixOf?_eq_none_iff.2 ?_
    rw [Literal.utf8_prefix_iff hword]
    exact isPrefixOf?_eq_none_iff.1 hrest

theorem utf8_newline_cons (text : List Char) : utf8 ('\n' :: text) = 0x0A :: utf8 text := by
  rw [utf8_cons]
  rfl

theorem head_utf8_ne_newline {c : Char} (hc : c ≠ '\n') (text : List Char) :
    ∃ b bytes, utf8 (c :: text) = b :: bytes ∧ (b == 0x0A) = false := by
  obtain ⟨b, bs, hbytes⟩ := Literal.utf8EncodeChar_eq_cons c
  refine ⟨b, bs ++ utf8 text, by rw [utf8_cons, hbytes, List.cons_append], beq_false_of_ne ?_⟩
  rintro rfl
  rcases Literal.utf8EncodeChar_cases c with ⟨hlow, hone⟩ | ⟨-, hhigh⟩
  · rw [hbytes, List.cons.injEq] at hone
    exact hc (Char.toNat_inj.1 ((Literal.ofNat_eq_iff hlow).1 hone.1.symm))
  · have hbyte := hhigh 0x0A (hbytes ▸ List.mem_cons_self)
    revert hbyte
    decide

theorem dropWhile_newline_utf8 (text : List Char) :
    (utf8 text).dropWhile (· == 0x0A) = utf8 (text.dropWhile (· == '\n')) := by
  induction text with
  | nil => rfl
  | cons c rest ih =>
    by_cases hc : c = '\n'
    · subst hc
      rw [utf8_newline_cons, List.dropWhile_cons_of_pos rfl, List.dropWhile_cons_of_pos rfl, ih]
    · obtain ⟨b, bytes, hbytes, hb⟩ := head_utf8_ne_newline hc rest
      rw [List.dropWhile_cons_of_neg (by simpa using hc), hbytes,
        List.dropWhile_cons_of_neg (by rw [hb]; exact Bool.false_ne_true)]

theorem followingBytes_utf8 (text : List Char) :
    followingBytes (utf8 text) = .ok ((following? text).map fun found =>
      (utf8 (found.1 ++ closer ++ found.2), (utf8 found.1).length)) := by
  fun_cases following? text with
  | case1 rest =>
    have hshorter : (utf8 (('\n' :: rest).dropWhile (· == '\n'))).length ≠
        (utf8 ('\n' :: rest)).length := by
      have hdropped := (List.dropWhile_sublist (p := (· == 0x0A)) (l := utf8 rest)).length_le
      rw [dropWhile_newline_utf8] at hdropped
      rw [List.dropWhile_cons_of_pos rfl, utf8_newline_cons, List.length_cons]
      omega
    rw [followingBytes, dropWhile_newline_utf8, if_neg hshorter, isPrefixOf?_utf8 opener_ascii,
      List.dropWhile_cons_of_pos rfl]
    cases Push.opener.isPrefixOf? (rest.dropWhile (· == '\n')) with
    | none => rfl
    | some body =>
      rw [Option.map_some, Option.bind_some]
      dsimp only
      rw [literalLength_utf8]
      cases hfound : split? body with
      | none => rfl
      | some found =>
        obtain ⟨-, rfl⟩ := Literal.split?_eq_some_iff.1 hfound
        rfl
  | case2 text hnewline =>
    have hsame : text.dropWhile (· == '\n') = text := by
      cases text with
      | nil => rfl
      | cons c rest =>
        have hc : c ≠ '\n' := fun h => hnewline rest (by rw [h])
        exact List.dropWhile_cons_of_neg (by simpa using hc)
    rw [followingBytes, dropWhile_newline_utf8, hsame, if_pos rfl]
    rfl

theorem length_utf8_append (before after : List Char) :
    (utf8 (before ++ after)).length = (utf8 before).length + (utf8 after).length := by
  rw [utf8_append, List.length_append]

theorem absorbStep_utf8 (out text : List Char) :
    absorbStep ⟨utf8 out, utf8 text⟩ =
      .ok ((following? text).map fun found => ⟨utf8 (out ++ found.1), utf8 found.2⟩) := by
  rw [absorbStep, followingBytes_utf8]
  cases following? text with
  | none => rfl
  | some found =>
    obtain ⟨content, rest⟩ := found
    have hcontent := sliceTo_utf8 content (closer ++ rest)
    have hrest := sliceFrom_utf8 (content ++ closer) rest
    rw [← List.append_assoc] at hcontent
    rw [length_utf8_append] at hrest
    simp only [Option.map_some, bind, Except.bind, hcontent, hrest, utf8_append out]
    rfl

theorem exhaust_absorbing (out text : List Char) :
    absorbing.exhaust ⟨utf8 out.reverse, utf8 text⟩ =
      .ok ⟨utf8 (absorb out text).1.reverse, utf8 (absorb out text).2⟩ := by
  fun_induction absorb out text with
  | case1 out text content rest hfollowing ih =>
    have hround : absorbing.run ⟨utf8 out.reverse, utf8 text⟩ =
        .ok (some ⟨utf8 (content.reverse ++ out).reverse, utf8 rest⟩) := by
      rw [List.reverse_append, List.reverse_reverse]
      exact (absorbStep_utf8 out.reverse text).trans (by rw [hfollowing]; rfl)
    rw [Round.exhaust_of_some hround, ih]
  | case2 out text hfollowing =>
    have hround : absorbing.run ⟨utf8 out.reverse, utf8 text⟩ = .ok none :=
      (absorbStep_utf8 out.reverse text).trans (by rw [hfollowing]; rfl)
    exact Round.exhaust_of_none hround

section Places

variable {word : List Char} (hword : ∀ c ∈ word, c.toNat < 0x80) (hne : word ≠ [])

include hword hne

theorem place?_high_append {bs : List UInt8} (hbs : ∀ b ∈ bs, 0x80 ≤ b.toNat)
    (bytes : List UInt8) :
    place? (utf8 word) (bs ++ bytes) = (place? (utf8 word) bytes).map (bs.length + ·) := by
  induction bs with
  | nil => simp
  | cons b bs ih =>
    obtain ⟨hb, hrest⟩ := List.forall_mem_cons.1 hbs
    have hnot : ¬ utf8 word <+: b :: (bs ++ bytes) := by
      obtain ⟨c, rest, rfl⟩ := List.exists_cons_of_ne_nil hne
      have hc := hword c List.mem_cons_self
      rcases Literal.utf8EncodeChar_cases c with ⟨-, hone⟩ | ⟨hhigh, -⟩
      · rw [utf8_cons, hone, List.singleton_append, List.cons_prefix_cons, Literal.ofNat_eq_iff hc]
        omega
      · omega
    rw [List.cons_append, place?, if_neg hnot, ih hrest, Literal.map_add_map_add, List.length_cons,
      Nat.add_comm 1]

theorem place?_utf8_cons (c : Char) (text : List Char) :
    place? (utf8 word) (utf8 (c :: text)) =
      if word <+: c :: text then some 0
      else (place? (utf8 word) (utf8 text)).map ((String.utf8EncodeChar c).length + ·) := by
  obtain ⟨b, bs, hbytes, hbs⟩ := Literal.utf8EncodeChar_eq_cons_high c
  have hcons : utf8 (c :: text) = b :: (bs ++ utf8 text) := by
    rw [utf8_cons, hbytes, List.cons_append]
  have hprefix : utf8 word <+: b :: (bs ++ utf8 text) ↔ word <+: c :: text := by
    rw [← hcons, Literal.utf8_prefix_iff hword]
  rw [hcons, place?, if_congr hprefix rfl rfl, place?_high_append hword hne hbs,
    Literal.map_add_map_add, hbytes, List.length_cons, Nat.add_comm 1]

end Places

theorem joinFrom_cons {c : Char} {tail : List Char} (h : ¬ Push.opener <+: c :: tail)
    (out : List Char) : joinFrom out (c :: tail) = joinFrom (c :: out) tail := by
  rw [joinFrom_eq_write, joinFrom_eq_write, tokens_char h]
  simp [joinTokens, Token.text]

def afterPush (out body : List Char) : List Char × List Char :=
  match split? body with
  | none => (Push.opener.reverse ++ out, body)
  | some (content, rest) =>
    let absorbed := absorb (content.reverse ++ (Push.opener.reverse ++ out)) rest
    (closer.reverse ++ absorbed.1, absorbed.2)

theorem joinFrom_opener (out body : List Char) :
    joinFrom out (Push.opener ++ body) =
      joinFrom (afterPush out body).1 (afterPush out body).2 := by
  generalize htext : Push.opener ++ body = text
  cases text with
  | nil => simp [Push.opener] at htext
  | cons c tail =>
    have hbody : Push.opener.isPrefixOf? (c :: tail) = some body :=
      isPrefixOf?_eq_some_iff.2 htext.symm
    rw [joinFrom, afterPush]
    split
    · next hopen => simp [hbody] at hopen
    · next body' hopen =>
      obtain rfl : body = body' := Option.some.inj (hbody.symm.trans hopen)
      split <;> simp_all

theorem length_afterPush (out body : List Char) : (afterPush out body).2.length ≤ body.length := by
  rw [afterPush]
  split
  · exact Nat.le_refl _
  · next hfound =>
    exact Nat.le_trans (absorb_rest_length _ _) (Nat.le_of_lt (Literal.split?_rest_length hfound))

theorem place?_cases (out text : List Char) :
    (place? (utf8 Push.opener) (utf8 text) = none ∧ joinFrom out text = out.reverse ++ text) ∨
      ∃ before body, text = before ++ (Push.opener ++ body) ∧
        place? (utf8 Push.opener) (utf8 text) = some (utf8 before).length ∧
        joinFrom out text = joinFrom (before.reverse ++ out) (Push.opener ++ body) := by
  have hopener : Push.opener ≠ [] := by decide
  induction text generalizing out with
  | nil => exact .inl ⟨rfl, by rw [joinFrom, List.append_nil]⟩
  | cons c tail ih =>
    rw [place?_utf8_cons opener_ascii hopener]
    by_cases hopen : Push.opener <+: c :: tail
    · obtain ⟨body, hbody⟩ := hopen
      refine .inr ⟨[], body, hbody.symm, if_pos ⟨body, hbody⟩, ?_⟩
      rw [← hbody]
      rfl
    · rw [if_neg hopen, joinFrom_cons hopen]
      rcases ih (c :: out) with ⟨hplace, hjoin⟩ | ⟨before, body, htail, hplace, hjoin⟩
      · refine .inl ⟨by rw [hplace]; rfl, ?_⟩
        rw [hjoin, List.reverse_cons, List.append_assoc]
        rfl
      · refine .inr ⟨c :: before, body, by rw [htail]; rfl, ?_, ?_⟩
        · rw [hplace, Option.map_some, utf8_cons, List.length_append]
        · rw [hjoin, List.reverse_cons, List.append_assoc]
          rfl

theorem joinStep_utf8 (out : List Char) {before body : List Char}
    (hplace : place? (utf8 Push.opener) (utf8 (before ++ (Push.opener ++ body))) =
      some (utf8 before).length) :
    joinStep ⟨utf8 out.reverse, utf8 (before ++ (Push.opener ++ body))⟩ =
      .ok (some ⟨utf8 (afterPush (before.reverse ++ out) body).1.reverse,
        utf8 (afterPush (before.reverse ++ out) body).2⟩) := by
  have hbefore := sliceTo_utf8 (before ++ Push.opener) body
  have hbody := sliceFrom_utf8 (before ++ Push.opener) body
  rw [length_utf8_append, List.append_assoc] at hbefore hbody
  rw [joinStep, hplace]
  simp only [bind, Except.bind, hbefore, hbody, literalLength_utf8, afterPush]
  cases hfound : split? body with
  | none => simp [pure, Except.pure, utf8_append]
  | some found =>
    obtain ⟨content, rest⟩ := found
    obtain ⟨-, rfl⟩ := Literal.split?_eq_some_iff.1 hfound
    have hcontent := sliceTo_utf8 content (closer ++ rest)
    have hrest := sliceFrom_utf8 (content ++ closer) rest
    rw [← List.append_assoc] at hcontent
    rw [length_utf8_append] at hrest
    have habsorbed := exhaust_absorbing
      (content.reverse ++ (Push.opener.reverse ++ (before.reverse ++ out))) rest
    simp only [List.reverse_append, List.reverse_reverse, ← List.append_assoc, utf8_append]
      at habsorbed hcontent hrest ⊢
    simp only [Option.map_some, hcontent, hrest, habsorbed]
    rfl

theorem exhaust_joining (out text : List Char) :
    ∃ p, joining.exhaust ⟨utf8 out.reverse, utf8 text⟩ = .ok p ∧
      p.out ++ p.rest = utf8 (joinFrom out text) := by
  induction hn : text.length using Nat.strongRecOn generalizing out text with
  | _ n ih =>
    rcases place?_cases out text with ⟨hplace, hjoin⟩ | ⟨before, body, rfl, hplace, hjoin⟩
    · have hround : joining.run ⟨utf8 out.reverse, utf8 text⟩ = .ok none := by
        change joinStep _ = _
        rw [joinStep, hplace]
        rfl
      exact ⟨_, Round.exhaust_of_none hround, by rw [hjoin, utf8_append]⟩
    · have hround := joinStep_utf8 out hplace
      have hshorter : (afterPush (before.reverse ++ out) body).2.length < n := by
        have := length_afterPush (before.reverse ++ out) body
        have hopener : 0 < Push.opener.length := by decide
        simp only [List.length_append] at hn
        omega
      obtain ⟨p, hp, hout⟩ := ih _ hshorter (afterPush (before.reverse ++ out) body).1
        (afterPush (before.reverse ++ out) body).2 rfl
      refine ⟨p, (Round.exhaust_of_some hround).trans hp, ?_⟩
      rw [hout, hjoin, joinFrom_opener]

theorem joinBytes_utf8 (text : List Char) : joinBytes (utf8 text) = .ok (utf8 (join text)) := by
  obtain ⟨p, hp, hout⟩ := exhaust_joining [] text
  have hstart : joining.exhaust ⟨[], utf8 text⟩ = .ok p := hp
  rw [joinBytes, hstart]
  exact congrArg Except.ok hout

end Exactness

def bytesOf (text : String) : List UInt8 := text.toByteArray.data.toList

theorem bytesOf_ofList (text : List Char) : bytesOf (String.ofList text) = utf8 text := by
  rw [bytesOf, Literal.data_toByteArray, String.toList_ofList]

theorem utf8ByteSize_ofList (text : List Char) :
    (String.ofList text).utf8ByteSize = (utf8 text).length := by
  rw [← Literal.length_utf8, String.toList_ofList]

theorem checkCut_bytesOf_eq_ok_iff {text : String} {i : Nat} :
    checkCut (bytesOf text) i = .ok () ↔
      ∃ before after, text = before ++ after ∧ before.utf8ByteSize = i := by
  rw [bytesOf, Literal.data_toByteArray, checkCut_utf8_eq_ok_iff]
  constructor
  · rintro ⟨before, after, htext, rfl⟩
    refine ⟨String.ofList before, String.ofList after, ?_, utf8ByteSize_ofList before⟩
    rw [← String.ofList_append, ← htext, String.ofList_toList]
  · rintro ⟨before, after, rfl, rfl⟩
    exact ⟨before.toList, after.toList, String.toList_append, Literal.length_utf8 before⟩

/-- Joining by bytes takes no slice out of range or through a character: a text is cut only where a
character ends, and neither the search for the end of a literal nor the search for the next push
ever cuts anywhere else. Every round leaves less to read. The length that is found for a literal is
that of the content which the scan of the characters finds, and the outcome is the joined script. -/
theorem joinBytes_safe_and_exact (text : String) :
    (∀ i, checkCut (bytesOf text) i = .ok () ↔
      ∃ before after, text = before ++ after ∧ before.utf8ByteSize = i) ∧
    literalLength (bytesOf text) 0 =
      .ok ((split? text.toList).map fun found => (String.ofList found.1).utf8ByteSize) ∧
    followingBytes (bytesOf text) = .ok ((following? text.toList).map fun found =>
      (bytesOf (String.ofList (found.1 ++ closer ++ found.2)),
        (String.ofList found.1).utf8ByteSize)) ∧
    joinBytes (bytesOf text) = .ok (bytesOf (String.ofList (join text.toList))) ∧
    (∀ p q, absorbStep p = .ok (some q) → q.rest.length < p.rest.length) ∧
    ∀ p q, joinStep p = .ok (some q) → q.rest.length < p.rest.length := by
  have hbytes : bytesOf text = utf8 text.toList := Literal.data_toByteArray text
  refine ⟨fun i => checkCut_bytesOf_eq_ok_iff, ?_, ?_, ?_, fun p q => absorbStep_shrinks,
    fun p q => joinStep_shrinks⟩
  · simp only [hbytes, literalLength_utf8, utf8ByteSize_ofList]
  · simp only [hbytes, followingBytes_utf8, bytesOf_ofList, utf8ByteSize_ofList]
  · rw [hbytes, joinBytes_utf8, bytesOf_ofList]

def wideEscape : List Char := '\n' :: (Push.opener ++ (['\\', '€'] ++ closer))

theorem joinBytes_wideEscape :
    literalLength (bytesOf "\\€');") 0 = .ok (some 4) ∧
      (absorbStep ⟨[], utf8 wideEscape⟩ = .ok (some ⟨utf8 ['\\', '€'], []⟩) ∧
        0 < (utf8 wideEscape).length) ∧
      joinStep ⟨[], utf8 (['€'] ++ (Push.opener ++ ['\\', '€']))⟩ =
          .ok (some ⟨utf8 (['€'] ++ Push.opener), utf8 ['\\', '€']⟩) ∧
        (utf8 ['\\', '€']).length < (utf8 (['€'] ++ (Push.opener ++ ['\\', '€']))).length := by
  have habsorb : absorbStep ⟨[], utf8 wideEscape⟩ = .ok (some ⟨utf8 ['\\', '€'], []⟩) :=
    absorbStep_utf8 [] wideEscape
  have hplace : place? (utf8 Push.opener) (utf8 (['€'] ++ (Push.opener ++ ['\\', '€']))) =
      some (utf8 ['€']).length := by decide
  have hjoin : joinStep ⟨[], utf8 (['€'] ++ (Push.opener ++ ['\\', '€']))⟩ =
      .ok (some ⟨utf8 (['€'] ++ Push.opener), utf8 ['\\', '€']⟩) := joinStep_utf8 [] hplace
  obtain ⟨-, hlength, -, -, habsorbs, hjoins⟩ := joinBytes_safe_and_exact "\\€');"
  exact ⟨hlength, ⟨habsorb, habsorbs _ _ habsorb⟩, hjoin, hjoins _ _ hjoin⟩

end TemplateCode.Script
