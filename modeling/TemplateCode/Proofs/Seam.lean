import TemplateCode.Proofs.Marks

/-! Where the seams of a script can lie. A seam begins with a quote and ends with one that follows a
parenthesis, so it cannot reach into a text without quotes before it, nor into one behind it whose
quotes all follow a backslash. -/

namespace TemplateCode.Script

inductive Cut : List Char → List Char → Prop
  | nil : Cut [] []
  | keep (c : Char) {s t : List Char} : Cut s t → Cut (c :: s) (c :: t)
  | drop (n : Nat) {s t : List Char} : Cut s t → Cut (seam n ++ s) t

theorem cut_of_marks (ms : List Mark) : Cut (marked ms) (remaining ms) := by
  induction ms with
  | nil => exact .nil
  | cons m ms ih =>
    cases m with
    | stays c => exact ih.keep c
    | goes n => exact ih.drop n

theorem cut_join (text : List Char) : Cut text (join text) := by
  obtain ⟨ms, hmarked, hremaining, _⟩ := loses_join text
  have hcut := cut_of_marks ms
  rwa [hmarked, hremaining] at hcut

/-- A text in which a quote stands only directly after a backslash. -/
inductive Guarded : List Char → Prop
  | nil : Guarded []
  | plain {c : Char} {rest : List Char} : c ≠ '\'' → Guarded rest → Guarded (c :: rest)
  | escape {rest : List Char} (c : Char) : Guarded rest → Guarded ('\\' :: c :: rest)

theorem Guarded.append {s t : List Char} (hs : Guarded s) (ht : Guarded t) : Guarded (s ++ t) := by
  induction hs with
  | nil => exact ht
  | plain hc _ ih => exact ih.plain hc
  | escape c _ ih => exact ih.escape c

theorem guarded_of_quote_notMem {text : List Char} (h : '\'' ∉ text) : Guarded text := by
  induction text with
  | nil => exact .nil
  | cons c text ih =>
    exact (ih fun hm => h (List.mem_cons_of_mem c hm)).plain fun hc => h (hc ▸ List.mem_cons_self)

theorem Guarded.no_call {text : List Char} (h : Guarded text) (c : Char) :
    ¬ ['(', '\''] <:+: c :: text := by
  induction h generalizing c with
  | nil => simp [List.infix_cons_iff]
  | @plain d rest hd _ ih =>
    rw [List.infix_cons_iff, not_or]
    exact ⟨by simp [List.cons_prefix_cons, hd.symm], ih d⟩
  | @escape rest d _ ih =>
    rw [List.infix_cons_iff, List.infix_cons_iff, not_or, not_or]
    exact ⟨by simp [List.cons_prefix_cons], by simp [List.cons_prefix_cons], ih d⟩

theorem Guarded.split {word s b t : List Char} (ht : Guarded t) (hword : ['(', '\''] <:+ word)
    (h : word ++ s = b ++ t) : ∃ b', b = word ++ b' ∧ s = b' ++ t := by
  rcases List.append_eq_append_iff.1 h with ⟨b', hb, hs⟩ | ⟨cs, hcs, rfl⟩
  · exact ⟨b', hb, hs⟩
  · cases cs with
    | nil => exact ⟨[], by simpa using hcs.symm, rfl⟩
    | cons c cs =>
      -- The part of the word inside `t` ends with the quote, which `t` has no place for.
      refine absurd ?_ (ht.no_call '(')
      rcases List.suffix_or_suffix_of_suffix hword ⟨b, hcs.symm⟩ with hlong | hshort
      · exact (hlong.isInfix.trans (List.prefix_append _ s).isInfix).trans
          (List.suffix_cons _ _).isInfix
      · rcases List.suffix_cons_iff.1 hshort with hc | hshort
        · exact ⟨['('], s, by simp [hc]⟩
        · rcases List.suffix_cons_iff.1 hshort with hc | hshort
          · exact ⟨[], s, by simp [hc]⟩
          · simp at hshort

theorem opener_call : ['(', '\''] <:+ Push.opener := by decide

theorem quote_mem_opener : '\'' ∈ Push.opener := by simp [Push.opener]

theorem seam_call (n : Nat) : ['(', '\''] <:+ seam n :=
  opener_call.trans (List.suffix_append _ _)

theorem Cut.eq_of_no_call {s t : List Char} (h : Cut s t) (hs : ¬ ['(', '\''] <:+: s) : t = s := by
  induction h with
  | nil => rfl
  | keep c _ ih => rw [ih fun hin => hs (hin.trans (List.suffix_cons c _).isInfix)]
  | drop n _ _ => exact absurd ((seam_call n).isInfix.trans (List.prefix_append _ _).isInfix) hs

theorem Cut.left {s t u : List Char} (hs : '\'' ∉ s) (h : Cut (s ++ t) u) :
    ∃ v, u = s ++ v ∧ Cut t v := by
  induction s generalizing u with
  | nil => exact ⟨u, rfl, h⟩
  | cons c s ih =>
    generalize htext : c :: s ++ t = text at h
    cases h with
    | nil => simp at htext
    | keep d h =>
      obtain ⟨rfl, rfl⟩ := List.cons.inj htext
      obtain ⟨v, rfl, hv⟩ := ih (fun hm => hs (List.mem_cons_of_mem c hm)) h
      exact ⟨v, rfl, hv⟩
    | drop n h =>
      obtain ⟨rfl, _⟩ := List.cons.inj htext
      exact absurd List.mem_cons_self hs

theorem Cut.right {s t u : List Char} (ht : Guarded t) (h : Cut (s ++ t) u) :
    ∃ v, u = v ++ t ∧ Cut s v := by
  generalize htext : s ++ t = text at h
  induction h generalizing s with
  | nil =>
    obtain ⟨rfl, rfl⟩ := List.append_eq_nil_iff.1 htext
    exact ⟨[], rfl, .nil⟩
  | @keep c text u h ih =>
    cases s with
    | nil =>
      obtain rfl : t = c :: text := htext
      have hno : ¬ ['(', '\''] <:+: c :: text := fun hin =>
        ht.no_call '(' (hin.trans (List.suffix_cons _ _).isInfix)
      exact ⟨[], (h.keep c).eq_of_no_call hno, .nil⟩
    | cons d s =>
      obtain ⟨rfl, hrest⟩ := List.cons.inj htext
      obtain ⟨v, rfl, hv⟩ := ih hrest
      exact ⟨d :: v, rfl, hv.keep d⟩
  | drop n _ ih =>
    obtain ⟨s', rfl, hrest⟩ := ht.split (seam_call n) htext.symm
    obtain ⟨v, rfl, hv⟩ := ih hrest.symm
    exact ⟨v, rfl, hv.drop n⟩

end TemplateCode.Script
