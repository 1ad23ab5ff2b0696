import TemplateCode.Proofs.Tokens

/-! How a script is read across the end of a line. No literal goes on over a newline unless a
backslash stands before it, so the reading starts afresh on the next line. -/

namespace TemplateCode.Script

section Text

variable {s t u v word : List Char} {c : Char}

theorem split_behind (hs : c ∉ s) (h : s ++ t = u ++ c :: v) :
    ∃ w, u = s ++ w ∧ t = w ++ c :: v := by
  rcases List.append_eq_append_iff.1 h with ⟨w, hw, ht⟩ | ⟨w, hw, hrest⟩
  · exact ⟨w, hw, ht⟩
  · cases w with
    | nil => exact ⟨[], by simpa using hw.symm, hrest.symm⟩
    | cons d w =>
      -- Otherwise `s` would have to go on over `c`.
      obtain ⟨rfl, -⟩ := List.cons.inj hrest
      refine absurd ?_ hs
      rw [hw]
      simp

theorem prefix_before (hword : c ∉ word) (h : word <+: s ++ c :: t) : word <+: s := by
  obtain ⟨rest, hrest⟩ := h
  obtain ⟨w, rfl, -⟩ := split_behind hword hrest
  exact List.prefix_append word w

theorem suffix_behind (hword : c ∉ word) (h : word <:+ u ++ c :: v) : word <:+ v := by
  rcases List.suffix_or_suffix_of_suffix h (List.suffix_append u _) with hshort | hlong
  · rcases List.suffix_cons_iff.1 hshort with rfl | hp
    · exact absurd List.mem_cons_self hword
    · exact hp
  · exact absurd (hlong.subset List.mem_cons_self) hword

end Text

namespace Literal

theorem split?_append {body content rest : List Char} (h : split? body = some (content, rest))
    (more : List Char) : split? (body ++ more) = some (content, rest ++ more) := by
  obtain ⟨hcontent, rfl⟩ := split?_eq_some_iff.1 h
  exact split?_eq_some_iff.2 ⟨hcontent, by simp⟩

theorem split?_over {body more content rest : List Char} {c : Char} (hc : c ∉ closer)
    (hbody : split? body = none) (h : split? (body ++ c :: more) = some (content, rest)) :
    ∃ x, content = body ++ c :: x ∧ more = x ++ closer ++ rest := by
  obtain ⟨hcontent, htext⟩ := split?_eq_some_iff.1 h
  rcases List.append_eq_append_iff.1 htext with ⟨w, hw, hmore⟩ | ⟨w, rfl, -⟩
  · cases w with
    | nil =>
      have hclosed : split? body = some (content, []) :=
        split?_eq_some_iff.2 ⟨hcontent, by simpa using hw.symm⟩
      rw [hbody] at hclosed
      cases hclosed
    | cons d w =>
      obtain ⟨rfl, rfl⟩ := List.cons.inj hmore
      obtain ⟨x, rfl⟩ : closer <:+ w := suffix_behind hc ⟨content, hw⟩
      rw [← List.cons_append, ← List.append_assoc, List.append_left_inj] at hw
      exact ⟨x, hw, rfl⟩
  · rw [split?_eq_some_iff.2 ⟨hcontent, rfl⟩] at hbody
    cases hbody

end Literal

theorem Literal.Enclosed.backslash_before_newline {before after : List Char}
    (h : Enclosed (before ++ '\n' :: after)) : ['\\'] <:+ before := by
  generalize htext : before ++ '\n' :: after = text at h
  induction h generalizing before with
  | nil => simp at htext
  | @escape rest c _ ih =>
    match before with
    | [] => simp at htext
    | [d] =>
      obtain ⟨rfl, _⟩ := List.cons.inj htext
      exact List.suffix_rfl
    | d :: e :: before =>
      obtain ⟨_, htail⟩ := List.cons.inj htext
      obtain ⟨_, hrest⟩ := List.cons.inj htail
      exact (ih hrest).trans (List.suffix_append [d, e] before)
  | @plain c rest hc _ ih =>
    cases before with
    | nil =>
      obtain ⟨rfl, _⟩ := List.cons.inj htext
      exact absurd rfl hc.2.2.1
    | cons d before =>
      obtain ⟨_, hrest⟩ := List.cons.inj htext
      exact (ih hrest).trans (List.suffix_cons d before)

theorem Literal.split?_append_newline {body : List Char} (h : ¬ ['\\'] <:+ body)
    (rest : List Char) :
    split? (body ++ '\n' :: rest) = (split? body).map fun p => (p.1, p.2 ++ '\n' :: rest) := by
  cases hbody : split? body with
  | some p => exact split?_append hbody _
  | none =>
    rw [Option.map_none, Option.eq_none_iff_forall_ne_some]
    rintro ⟨content, after⟩ hlong
    obtain ⟨x, rfl, -⟩ := split?_over (by decide) hbody hlong
    exact h (split?_eq_some_iff.1 hlong).1.backslash_before_newline

/-- Only a backslash behind an opener can carry the reading over a newline. -/
theorem tokens_append_newline {line : List Char}
    (h : ∀ body, Push.opener ++ body <:+ line → ¬ ['\\'] <:+ body) (rest : List Char) :
    tokens (line ++ '\n' :: rest) = tokens line ++ tokens ('\n' :: rest) := by
  fun_induction tokens line with
  | case1 => rfl
  | case2 c tail hopen ih =>
    have hchar : ¬ Push.opener <+: c :: (tail ++ '\n' :: rest) := fun hlong =>
      isPrefixOf?_eq_none_iff.1 hopen (prefix_before (s := c :: tail) (by decide) hlong)
    rw [List.cons_append, tokens_char hchar,
      ih fun body hbody => h body (hbody.trans (List.suffix_cons c tail))]
    rfl
  | case3 c tail body hopen hlit ih =>
    rw [isPrefixOf?_eq_some_iff.1 hopen] at h ⊢
    have hnone : Literal.split? (body ++ '\n' :: rest) = none := by
      rw [Literal.split?_append_newline (h body List.suffix_rfl), hlit]
      rfl
    rw [List.append_assoc, tokens_opener, hnone]
    exact congrArg _ (ih fun tail htail => h tail (htail.trans (List.suffix_append _ _)))
  | case4 c tail body hopen content after hlit ih =>
    rw [isPrefixOf?_eq_some_iff.1 hopen] at h ⊢
    obtain ⟨_, hbody⟩ := Literal.split?_eq_some_iff.1 hlit
    have hafter : after <:+ Push.opener ++ body := by
      rw [hbody]
      exact (List.suffix_append _ _).trans (List.suffix_append _ _)
    rw [List.append_assoc, tokens_opener, Literal.split?_append hlit]
    exact congrArg _ (ih fun tail htail => h tail (htail.trans hafter))

theorem tokens_line {line : List Char} (h : ¬ ['\\'] <:+ line) (rest : List Char) :
    tokens (line ++ '\n' :: rest) = tokens line ++ .char '\n' :: tokens rest := by
  have hbehind : ∀ body, Push.opener ++ body <:+ line → ¬ ['\\'] <:+ body := by
    intro body hbody hlast
    exact h (hlast.trans ((List.suffix_append _ _).trans hbody))
  rw [tokens_append_newline hbehind, tokens_newline]

theorem tokens_of_no_opener {text : List Char} (h : ¬ Push.opener <:+: text) :
    tokens text = text.map .char := by
  induction text with
  | nil => exact tokens_nil
  | cons c text ih =>
    rw [tokens_char fun hopen => h hopen.isInfix,
      ih fun hin => h (hin.trans (List.suffix_cons c text).isInfix)]
    rfl

theorem enclosed_of_mem_tokens {text x : List Char} (h : .push x ∈ tokens text) :
    Literal.Enclosed x := by
  fun_induction tokens text with
  | case1 => simp at h
  | case2 c tail _ ih =>
    rcases List.mem_cons.1 h with hx | htail
    · cases hx
    · exact ih htail
  | case3 c tail body _ _ ih =>
    rcases List.mem_cons.1 h with hx | hbody
    · cases hx
    · exact ih hbody
  | case4 c tail body _ content rest hlit ih =>
    rcases List.mem_cons.1 h with hx | hrest
    · cases hx
      exact (Literal.split?_eq_some_iff.1 hlit).1
    · exact ih hrest

end TemplateCode.Script
