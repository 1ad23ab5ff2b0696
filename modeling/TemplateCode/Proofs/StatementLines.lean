import TemplateCode.Proofs.FixedPoint
import TemplateCode.Proofs.Lines

/-! Scripts in which every push of a literal begins a line and no line ends with a backslash. Such a
script is read line by line, condensing keeps it so, and once condensed it is a fixed point: no line
that is one literal push comes before another. -/

namespace TemplateCode.Script

/-- A line as it is read. At most its first token is a push or begins one. -/
structure IsLine (ts : List Token) : Prop where
  reads : tokens (write ts) = ts
  unbroken : '\n' ∉ write ts
  chars : ∀ t ∈ ts.tail, ∃ c, t = .char c

/-- Lines with a newline after each but the last. Where a newline follows, no backslash stands. -/
inductive Lines : List Token → Prop
  | last {ts : List Token} : IsLine ts → Lines ts
  | cons {ts us : List Token} :
      IsLine ts → ¬ ['\\'] <:+ write ts → Lines us → Lines (ts ++ .char '\n' :: us)

theorem isLine_nil : IsLine [] := ⟨tokens_nil, List.not_mem_nil, nofun⟩

theorem isLine_tokens {line : List Char} (hline : '\n' ∉ line)
    (hopen : ∀ before after, line = before ++ (Push.opener ++ after) → before = []) :
    IsLine (tokens line) := by
  -- Behind the first character no push begins, so all that follows is read as characters.
  have hchars : ∀ c rest text, line = c :: rest → text <:+ rest →
      ∀ t ∈ tokens text, ∃ d, t = .char d := by
    rintro c rest text rfl ⟨lead, rfl⟩ t ht
    have hnone : ¬ Push.opener <:+: text := by
      rintro ⟨before, after, rfl⟩
      have h := hopen (c :: (lead ++ before)) after (by simp)
      exact nomatch h
    rw [tokens_of_no_opener hnone] at ht
    obtain ⟨d, _, rfl⟩ := List.mem_map.1 ht
    exact ⟨d, rfl⟩
  refine ⟨by rw [write_tokens], by rwa [write_tokens], ?_⟩
  cases line with
  | nil =>
    rw [tokens_nil]
    nofun
  | cons c rest =>
    by_cases hprefix : Push.opener <+: c :: rest
    · obtain ⟨body, hbody⟩ := hprefix
      have hrest : body <:+ rest := ⟨Push.opener.tail, (List.cons.inj hbody).2⟩
      rw [← hbody, tokens_opener]
      cases hlit : Literal.split? body with
      | none => exact hchars c rest body rfl hrest
      | some p =>
        obtain ⟨_, hp⟩ := Literal.split?_eq_some_iff.1 hlit
        exact hchars c rest p.2 rfl ((List.suffix_append _ _).trans (hp ▸ hrest))
    · rw [tokens_char hprefix]
      exact hchars c rest rest rfl List.suffix_rfl

theorem Lines.reads {ts : List Token} (h : Lines ts) : tokens (write ts) = ts := by
  induction h with
  | last hline => exact hline.reads
  | @cons ts us hline hend _ ih =>
    have hwrite : write (ts ++ .char '\n' :: us) = write ts ++ '\n' :: write us := by
      simp [Token.text]
    rw [hwrite, tokens_line hend, hline.reads, ih]

theorem Lines.of_newline_cons {ts : List Token} (h : Lines (.char '\n' :: ts)) : Lines ts := by
  generalize htokens : Token.char '\n' :: ts = us at h
  cases h with
  | last hline =>
    rw [← htokens] at hline
    exact absurd List.mem_cons_self hline.unbroken
  | @cons us vs hline hend hlines =>
    cases us with
    | nil =>
      obtain ⟨_, rfl⟩ := List.cons.inj htokens
      exact hlines
    | cons u us =>
      obtain ⟨rfl, _⟩ := List.cons.inj htokens
      exact absurd List.mem_cons_self hline.unbroken

theorem Lines.of_breaks {n : Nat} {ts : List Token}
    (h : Lines (List.replicate n (.char '\n') ++ ts)) : Lines ts := by
  induction n with
  | zero => exact h
  | succ n ih => exact ih h.of_newline_cons

theorem IsLine.widen {x y : List Char} {cs : List Token} (hx : IsLine [.push x])
    (hy : IsLine (.push y :: cs)) : IsLine (.push (x ++ y) :: cs) := by
  have henclosed : ∀ {z us}, IsLine (.push z :: us) → Literal.Enclosed z := by
    intro z us hline
    have hmem : .push z ∈ tokens (write (.push z :: us)) := by
      rw [hline.reads]
      exact List.mem_cons_self
    exact enclosed_of_mem_tokens hmem
  have hwrite : ∀ z, write (.push z :: cs) =
      Push.opener ++ (z ++ Literal.closer ++ write cs) := by
    intro z
    simp [Token.text]
  have hcs : tokens (write cs) = cs := by
    have hreads := hy.reads
    rw [hwrite, tokens_push (henclosed hy)] at hreads
    exact (List.cons.inj hreads).2
  refine ⟨?_, ?_, hy.chars⟩
  · rw [hwrite, tokens_push ((henclosed hx).append (henclosed hy)), hcs]
  · have hleft := hx.unbroken
    have hright := hy.unbroken
    simp only [write_cons, Token.text, List.mem_append, not_or] at hleft hright ⊢
    exact ⟨⟨⟨hright.1.1.1, hleft.1.1.2, hright.1.1.2⟩, hright.1.2⟩, hright.2⟩

theorem Lines.widen {x y : List Char} {ts : List Token} (hx : IsLine [.push x])
    (h : Lines (.push y :: ts)) : Lines (.push (x ++ y) :: ts) := by
  generalize htokens : Token.push y :: ts = us at h
  cases h with
  | last hline =>
    rw [← htokens] at hline
    exact .last (hx.widen hline)
  | @cons us vs hline hend hlines =>
    cases us with
    | nil => exact nomatch (List.cons.inj htokens).1
    | cons u us =>
      obtain ⟨rfl, rfl⟩ := List.cons.inj htokens
      refine .cons (hx.widen hline) ?_ hlines
      simpa [List.singleton_suffix_iff_getLast?_eq_some, Token.text, Literal.closer] using hend

theorem IsLine.joinTokens_append {ts : List Token} (h : IsLine ts) (hne : ∀ x, ts ≠ [.push x])
    (us : List Token) : joinTokens (ts ++ us) = ts ++ joinTokens us := by
  cases ts with
  | nil => rfl
  | cons t cs =>
    have hcs : ∀ x, .push x ∉ cs := by
      intro x hx
      obtain ⟨c, hc⟩ := h.chars _ hx
      cases hc
    cases t with
    | char | opening =>
      refine Script.joinTokens_append (fun x hx => ?_) us
      exact hcs x ((List.mem_cons.1 hx).resolve_left nofun)
    | push x =>
      cases cs with
      | nil => exact absurd rfl (hne x)
      | cons d cs =>
        obtain ⟨c, rfl⟩ := h.chars d List.mem_cons_self
        have hc : c ≠ '\n' := by
          rintro rfl
          exact h.unbroken (by simp [Token.text])
        have hnone : ∀ vs, neighbour? (.char c :: vs) = none := by
          intro vs
          simp [neighbour?, hc]
        rw [List.cons_append, joinTokens, Script.joinTokens_append hcs, takeOver, List.cons_append,
          hnone]
        simp

theorem lines_joinTokens {ts : List Token} (h : Lines ts) : Lines (joinTokens ts) := by
  induction h with
  | @last ts hline =>
    by_cases hpush : ∃ x, ts = [.push x]
    · obtain ⟨x, rfl⟩ := hpush
      simpa [joinTokens, takeOver, neighbour?] using Lines.last hline
    · have hjoin := hline.joinTokens_append (not_exists.1 hpush) []
      rw [List.append_nil, joinTokens, List.append_nil] at hjoin
      rw [hjoin]
      exact .last hline
  | @cons ts us hline hend _ ih =>
    by_cases hpush : ∃ x, ts = [.push x]
    · obtain ⟨x, rfl⟩ := hpush
      have hjoin : joinTokens ([.push x] ++ .char '\n' :: us) =
          .push (x ++ (takeOver (.char '\n' :: joinTokens us)).1) ::
            (takeOver (.char '\n' :: joinTokens us)).2 := rfl
      rw [hjoin, takeOver, neighbour?]
      cases hnext : next? (joinTokens us) with
      | none => simpa using Lines.cons hline hend ih
      | some p =>
        obtain ⟨n, hus⟩ := next?_eq_some_iff.1 hnext
        rw [hus] at ih
        exact ih.of_breaks.widen hline
    · rw [hline.joinTokens_append (not_exists.1 hpush), joinTokens]
      exact .cons hline hend ih

def squeezeTokens (broken : Bool) : List Token → List Token
  | [] => []
  | .char c :: ts =>
    if broken && c == '\n' then squeezeTokens true ts else .char c :: squeezeTokens (c == '\n') ts
  | .opening :: ts => .opening :: squeezeTokens false ts
  | .push x :: ts => .push x :: squeezeTokens false ts

theorem squeezeTokens_append {ts : List Token} (h : '\n' ∉ write ts) (hne : ts ≠ [])
    (broken : Bool) (us : List Token) :
    squeezeTokens broken (ts ++ us) = ts ++ squeezeTokens false us := by
  induction ts generalizing broken with
  | nil => exact absurd rfl hne
  | cons t ts ih =>
    rw [write_cons, List.mem_append, not_or] at h
    have htail : squeezeTokens false (ts ++ us) = ts ++ squeezeTokens false us := by
      cases ts with
      | nil => rfl
      | cons u ts => exact ih h.2 (List.cons_ne_nil u ts) false
    cases t with
    | char c =>
      have hc : (c == '\n') = false := beq_false_of_ne fun e => h.1 (e ▸ List.mem_cons_self)
      rw [List.cons_append, squeezeTokens, hc, Bool.and_false, htail]
      rfl
    | opening | push => rw [List.cons_append, squeezeTokens, htail, List.cons_append]

theorem write_ne_nil {ts : List Token} (h : ts ≠ []) : write ts ≠ [] := by
  cases ts with
  | nil => exact absurd rfl h
  | cons t ts => cases t <;> simp [Token.text, Push.opener]

theorem Lines.squeeze {ts : List Token} (h : Lines ts) (broken : Bool) :
    Lines (squeezeTokens broken ts) ∧
      write (squeezeTokens broken ts) = Script.squeeze broken (write ts) := by
  induction h generalizing broken with
  | @last ts hline =>
    have hself : squeezeTokens broken ts = ts := by
      by_cases hne : ts = []
      · rw [hne, squeezeTokens]
      · have happend := squeezeTokens_append hline.unbroken hne broken []
        rwa [List.append_nil, squeezeTokens, List.append_nil] at happend
    rw [hself, squeeze_of_newline_notMem hline.unbroken]
    exact ⟨.last hline, rfl⟩
  | @cons ts us hline hend _ ih =>
    obtain ⟨hlines, hwrite⟩ := ih true
    by_cases hne : ts = []
    · subst hne
      cases broken with
      | true => exact ⟨hlines, hwrite⟩
      | false => exact ⟨.cons isLine_nil hend hlines, congrArg ('\n' :: ·) hwrite⟩
    · have hwritten : write (ts ++ .char '\n' :: us) = write ts ++ '\n' :: write us := by
        simp [Token.text]
      have hself : squeezeTokens broken (ts ++ .char '\n' :: us) =
          ts ++ .char '\n' :: squeezeTokens true us := by
        rw [squeezeTokens_append hline.unbroken hne]
        rfl
      rw [hself, hwritten, squeeze_line hline.unbroken (write_ne_nil hne), ← hwrite]
      exact ⟨.cons hline hend hlines, by simp [Token.text]⟩

theorem next?_squeezeTokens (broken : Bool) (ts : List Token) :
    next? (squeezeTokens broken ts) =
      (next? ts).map fun p => (p.1, squeezeTokens false p.2) := by
  induction ts generalizing broken with
  | nil => rfl
  | cons t ts ih =>
    cases t with
    | char c =>
      by_cases hc : c = '\n'
      · subst hc
        cases broken with
        | true => exact ih true
        | false => exact ih true
      · simp [squeezeTokens, next?, hc]
    | opening | push => rfl

theorem neighbour?_squeezeTokens (ts : List Token) :
    neighbour? (squeezeTokens false ts) =
      (neighbour? ts).map fun p => (p.1, squeezeTokens false p.2) := by
  match ts with
  | [] | .opening :: _ | .push _ :: _ => rfl
  | .char c :: ts =>
    by_cases hc : c = '\n'
    · subst hc
      exact next?_squeezeTokens true ts
    · simp [squeezeTokens, neighbour?, hc]

theorem Settled.squeeze {ts : List Token} (h : Settled ts) (broken : Bool) :
    Settled (squeezeTokens broken ts) := by
  induction ts generalizing broken with
  | nil => exact trivial
  | cons t ts ih =>
    cases t with
    | char c =>
      rw [squeezeTokens]
      split
      · exact ih h true
      · exact ih h (c == '\n')
    | opening => exact ih h false
    | push x =>
      refine ⟨?_, ih h.2 false⟩
      rw [neighbour?_squeezeTokens, h.1]
      rfl

def OpensLines (text : List Char) : Prop :=
  ∀ before after, text = before ++ (Push.opener ++ after) → before = [] ∨ ['\n'] <:+ before

theorem opensLines_iff_drop (text : List Char) :
    OpensLines text ↔ ∀ n ≤ text.length, Push.opener <+: text.drop n →
      text.take n = [] ∨ ['\n'] <:+ text.take n := by
  constructor
  · rintro h n _ ⟨after, hafter⟩
    exact h (text.take n) after (by rw [hafter, List.take_append_drop])
  · rintro h before after rfl
    have hn := h before.length (by simp)
    rw [List.drop_left, List.take_left] at hn
    exact hn (List.prefix_append _ _)

instance : DecidablePred OpensLines := fun text => decidable_of_iff' _ (opensLines_iff_drop text)

theorem OpensLines.first_line {line rest : List Char} (h : OpensLines (line ++ rest))
    (hline : '\n' ∉ line) :
    ∀ before after, line = before ++ (Push.opener ++ after) → before = [] := by
  rintro before after rfl
  refine (h before (after ++ rest) (by simp)).resolve_right fun hlast => hline ?_
  exact List.mem_append_left _ (hlast.subset List.mem_cons_self)

theorem OpensLines.behind_newline {line rest : List Char} (h : OpensLines (line ++ '\n' :: rest)) :
    OpensLines rest := by
  rintro before after rfl
  rcases h (line ++ '\n' :: before) after (by simp) with hnil | hlast
  · simp at hnil
  · -- The newline at the end of the longer text is the last one of `before` or the one in front.
    have hbefore : before <:+ line ++ '\n' :: before :=
      (List.suffix_cons _ _).trans (List.suffix_append _ _)
    rcases List.suffix_or_suffix_of_suffix hlast hbefore with hlast | hshort
    · exact .inr hlast
    · rcases List.suffix_cons_iff.1 hshort with rfl | hnil
      · exact .inr List.suffix_rfl
      · exact .inl (List.suffix_nil.1 hnil)

theorem lines_tokens {text : List Char} (hopen : OpensLines text)
    (hbreak : ¬ ['\\', '\n'] <:+: text) : Lines (tokens text) := by
  induction hlen : text.length using Nat.strongRecOn generalizing text with
  | ind len ih =>
    by_cases hnewline : '\n' ∈ text
    · obtain ⟨line, rest, rfl, hline⟩ := List.eq_append_cons_of_mem hnewline
      have hend : ¬ ['\\'] <:+ line := by
        rintro ⟨start, rfl⟩
        exact hbreak ⟨start, rest, by simp⟩
      have hshorter : rest.length < len := by
        rw [← hlen, List.length_append, List.length_cons]
        omega
      have hrest : rest <:+ line ++ '\n' :: rest :=
        (List.suffix_cons _ _).trans (List.suffix_append _ _)
      have hlines : Lines (tokens rest) :=
        ih rest.length hshorter hopen.behind_newline
          (fun hin => hbreak (hin.trans hrest.isInfix)) rfl
      rw [tokens_line hend]
      exact .cons (isLine_tokens hline (hopen.first_line hline)) (by rwa [write_tokens]) hlines
    · rw [← List.append_nil text] at hopen
      exact .last (isLine_tokens hnewline (hopen.first_line hnewline))

theorem Lines.tokens_behind {ts : List Token} (h : Lines ts) {before after : List Char}
    (htext : write ts = before ++ after) (hbefore : before = [] ∨ ['\n'] <:+ before) :
    ∃ us, ts = us ++ tokens after := by
  rcases hbefore with rfl | ⟨start, rfl⟩
  · exact ⟨[], by rw [List.nil_append, ← h.reads, htext, List.nil_append]⟩
  · rw [List.append_assoc, List.singleton_append] at htext
    induction h generalizing start with
    | last hline =>
      exact absurd (by simp [htext]) hline.unbroken
    | @cons ts us hline _ hlines ih =>
      rw [write_append, write_cons, Token.text, List.singleton_append] at htext
      rcases List.append_eq_append_iff.1 htext with ⟨cs, rfl, hcs⟩ | ⟨cs, hcs, hafter⟩
      · cases cs with
        | nil =>
          obtain ⟨_, rfl⟩ := List.cons.inj hcs
          exact ⟨ts ++ [.char '\n'], by simp [hlines.reads]⟩
        | cons c cs =>
          obtain ⟨rfl, hus⟩ := List.cons.inj hcs
          obtain ⟨vs, hvs⟩ := ih cs hus
          exact ⟨ts ++ .char '\n' :: vs, by simp [hvs]⟩
      · cases cs with
        | nil =>
          obtain ⟨_, rfl⟩ := List.cons.inj hafter
          exact ⟨ts ++ [.char '\n'], by simp [hlines.reads]⟩
        | cons c cs =>
          obtain ⟨rfl, _⟩ := List.cons.inj hafter
          exact absurd (by simp [hcs]) hline.unbroken

def NeighbourLines (text : List Char) : Prop :=
  ∃ before x y after, (before = [] ∨ ['\n'] <:+ before) ∧ Literal.Enclosed x ∧ Literal.Enclosed y ∧
    text = before ++ (Push.opener ++ (x ++ Literal.closer ++ '\n' ::
      (Push.opener ++ (y ++ Literal.closer ++ after))))

theorem condensed_lines {source : String} (hopen : OpensLines source.toList)
    (hbreak : ¬ ['\\', '\n'] <:+: source.toList) :
    ∃ ts, Lines ts ∧ Settled ts ∧ write ts = (condense source).toList := by
  have hlines := lines_joinTokens (lines_tokens hopen hbreak)
  obtain ⟨hsqueezed, hwrite⟩ := hlines.squeeze false
  refine ⟨_, hsqueezed, (settled_joinTokens (tokens source.toList)).squeeze false, ?_⟩
  rw [hwrite, condense, String.toList_ofList, collapse_eq_squeeze, join_eq_write]

/-- Where every push of a literal begins a line and no backslash stands before a newline, condensing
twice is condensing once, and no two lines are left that could still be joined. -/
theorem condense_condense_of_lines {source : String} (hopen : OpensLines source.toList)
    (hbreak : ¬ ['\\', '\n'] <:+: source.toList) :
    condense (condense source) = condense source ∧ ¬ NeighbourLines (condense source).toList := by
  obtain ⟨ts, hlines, hsettled, htext⟩ := condensed_lines hopen hbreak
  constructor
  · have hchain : (condense source).toList.IsChain Single := by
      rw [condense, String.toList_ofList, collapse_eq_destutter]
      exact List.isChain_destutter Single _
    have hself := (condense_eq_self_iff (condense source).toList).2
      ⟨by rwa [← htext, hlines.reads], hchain⟩
    rw [condense, hself, String.ofList_toList]
  · rintro ⟨before, x, y, after, hbefore, hx, hy, hneighbours⟩
    obtain ⟨us, rfl⟩ := hlines.tokens_behind (htext.trans hneighbours) hbefore
    rw [tokens_push hx, tokens_newline, tokens_push hy] at hsettled
    have hnone := hsettled.right.1
    simp [neighbour?, next?] at hnone

def spellingLines : String :=
  "__vbuffer.push('__vbuffer.');\n\n__vbuffer.push('push(');\n__vbuffer.push('b'.length);\n"

theorem condense_condense_spellingLines :
    (OpensLines spellingLines.toList ∧ ¬ ['\\', '\n'] <:+: spellingLines.toList) ∧
      condense (condense spellingLines) = condense spellingLines ∧
      ¬ NeighbourLines (condense spellingLines).toList := by
  have hlines : OpensLines spellingLines.toList ∧ ¬ ['\\', '\n'] <:+: spellingLines.toList := by
    decide +kernel
  exact ⟨hlines, condense_condense_of_lines hlines.1 hlines.2⟩

end TemplateCode.Script
