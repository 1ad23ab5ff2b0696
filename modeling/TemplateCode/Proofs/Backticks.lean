import TemplateCode.Proofs.Emission
import TemplateCode.Proofs.Skeleton

/-! Code that stands between backticks. The pass over the finished script knows nothing of strings:
blank lines are shortened and neighbouring literal pushes are joined there as everywhere. Neither an
opener nor a closer holds a backtick, so no join reaches over one, and what becomes of the code is
settled by the code and by one bit of what stands before it: whether a literal is open there. -/

namespace TemplateCode.Script

theorem eq_of_count {c : Char} {u v u' v' : List Char} (hcount : v.count c = v'.count c)
    (h : u ++ c :: v = u' ++ c :: v') : u = u' ∧ v = v' := by
  rcases List.append_eq_append_iff.1 h with ⟨w, rfl, hw⟩ | ⟨w, rfl, hw⟩
  all_goals
    cases w with
    | nil =>
      simp only [List.nil_append, List.cons.injEq, true_and] at hw
      simp [hw]
    | cons d w =>
      obtain ⟨rfl, rfl⟩ := List.cons.inj hw
      simp at hcount
      omega

theorem Literal.Enclosed.of_append {a b : List Char} {c : Char} (h : Enclosed (a ++ c :: b))
    (hc : c ≠ '\\') : Enclosed b := by
  generalize htext : a ++ c :: b = text at h
  induction h generalizing a with
  | nil => simp at htext
  | @escape rest d hrest ih =>
    match a with
    | [] => exact absurd (List.cons.inj htext).1 hc
    | [e] =>
      obtain ⟨-, htail⟩ := List.cons.inj htext
      obtain ⟨-, rfl⟩ := List.cons.inj htail
      exact hrest
    | e :: f :: a => exact ih (List.cons.inj (List.cons.inj htext).2).2
  | @plain d rest _ hrest ih =>
    cases a with
    | nil =>
      obtain ⟨-, rfl⟩ := List.cons.inj htext
      exact hrest
    | cons e a => exact ih (List.cons.inj htext).2

namespace Literal

theorem split?_over_backtick {body more content rest : List Char} (hbody : split? body = none)
    (h : split? (body ++ '`' :: more) = some (content, rest)) :
    ∃ x, content = body ++ '`' :: x ∧ split? more = some (x, rest) := by
  obtain ⟨x, rfl, hmore⟩ := split?_over (by decide) hbody h
  have hcontent := (split?_eq_some_iff.1 h).1
  exact ⟨x, rfl, split?_eq_some_iff.2 ⟨hcontent.of_append (by decide), hmore⟩⟩

theorem split?_line {line : List Char} (hquote : '\'' ∉ line) (hline : ¬ ['\\'] <:+ line)
    (rest : List Char) : split? (line ++ '\n' :: rest) = none := by
  rw [split?_append_newline hline, Option.map_eq_none_iff, Option.eq_none_iff_forall_ne_some]
  rintro ⟨content, after⟩ h
  obtain ⟨-, rfl⟩ := split?_eq_some_iff.1 h
  simp [closer] at hquote

end Literal

section Tokens

theorem tokens_append_backtick (text more : List Char) :
    tokens (text ++ '`' :: more) = tokens text ++ .char '`' :: tokens more ∨
      ∃ us w x rest, text = write us ++ (Push.opener ++ w) ∧
        Literal.split? more = some (x, rest) ∧
        tokens (text ++ '`' :: more) = us ++ .push (w ++ '`' :: x) :: tokens rest := by
  fun_induction tokens text with
  | case1 =>
    left
    exact tokens_char (by simp [Push.opener, List.cons_prefix_cons])
  | case2 c tail hopen ih =>
    have hchar : ¬ Push.opener <+: c :: (tail ++ '`' :: more) := fun hlong =>
      isPrefixOf?_eq_none_iff.1 hopen (prefix_before (s := c :: tail) (by decide) hlong)
    rw [List.cons_append, tokens_char hchar]
    rcases ih with ih | ⟨us, w, x, rest, rfl, hmore, ih⟩
    · exact .inl (by rw [ih, List.cons_append])
    · exact .inr ⟨.char c :: us, w, x, rest, rfl, hmore, by rw [ih, List.cons_append]⟩
  | case3 c tail body hopen hlit ih =>
    -- No literal is closed before the backtick, but one may be behind it.
    rw [isPrefixOf?_eq_some_iff.1 hopen, List.append_assoc, tokens_opener]
    cases hread : Literal.split? (body ++ '`' :: more) with
    | none =>
      rcases ih with ih | ⟨us, w, x, rest, rfl, hmore, ih⟩
      · exact .inl (congrArg (.opening :: ·) ih)
      · exact .inr ⟨.opening :: us, w, x, rest, by simp [Token.text], hmore,
          congrArg (.opening :: ·) ih⟩
    | some p =>
      obtain ⟨content, rest⟩ := p
      obtain ⟨x, rfl, hmore⟩ := Literal.split?_over_backtick hlit hread
      exact .inr ⟨[], body, x, rest, rfl, hmore, rfl⟩
  | case4 c tail body hopen content rest hlit ih =>
    obtain ⟨-, hbody⟩ := Literal.split?_eq_some_iff.1 hlit
    rw [isPrefixOf?_eq_some_iff.1 hopen, List.append_assoc, tokens_opener,
      Literal.split?_append hlit]
    rcases ih with ih | ⟨us, w, x, rest, rfl, hmore, ih⟩
    · exact .inl (congrArg (.push content :: ·) ih)
    · exact .inr ⟨.push content :: us, w, x, rest, by simp [Token.text, hbody], hmore,
        congrArg (.push content :: ·) ih⟩

theorem tokens_before_backtick {more : List Char} (hmore : Literal.split? more = none)
    (text : List Char) :
    tokens (text ++ '`' :: more) = tokens text ++ .char '`' :: tokens more := by
  rcases tokens_append_backtick text more with h | ⟨us, w, x, rest, -, hsome, -⟩
  · exact h
  · rw [hmore] at hsome
    cases hsome

theorem split?_before_backtick {more : List Char} (hmore : Literal.split? more = none)
    (body : List Char) :
    Literal.split? (body ++ '`' :: more) =
      (Literal.split? body).map fun p => (p.1, p.2 ++ '`' :: more) := by
  cases hbody : Literal.split? body with
  | some p => exact Literal.split?_append hbody _
  | none =>
    rw [Option.map_none, Option.eq_none_iff_forall_ne_some]
    rintro ⟨content, rest⟩ h
    obtain ⟨x, -, hsome⟩ := Literal.split?_over_backtick hbody h
    rw [hmore] at hsome
    cases hsome

variable {c : Char}

theorem next?_append_char (hc : c ≠ '\n') (ts us : List Token) :
    next? (ts ++ .char c :: us) = (next? ts).map fun p => (p.1, p.2 ++ .char c :: us) := by
  fun_induction next? ts with
  | case1 x ts => rfl
  | case2 ts ih => exact ih
  | case3 ts hpush hbreak =>
    cases ts with
    | nil => simp [next?, hc]
    | cons t ts =>
      cases t with
      | opening => rfl
      | push x => exact (hpush x ts rfl).elim
      | char d =>
        have hd : d ≠ '\n' := fun h => hbreak ts (by rw [h])
        simp [next?, hd]

theorem neighbour?_append_char (hc : c ≠ '\n') (ts us : List Token) :
    neighbour? (ts ++ .char c :: us) =
      (neighbour? ts).map fun p => (p.1, p.2 ++ .char c :: us) := by
  match ts with
  | [] => simp [neighbour?, hc]
  | .opening :: _ | .push _ :: _ => rfl
  | .char d :: ts =>
    by_cases hd : d = '\n'
    · rw [hd]
      exact next?_append_char hc ts us
    · simp [neighbour?, hd]

theorem joinTokens_append_char (hc : c ≠ '\n') (ts us : List Token) :
    joinTokens (ts ++ .char c :: us) = joinTokens ts ++ .char c :: joinTokens us := by
  induction ts with
  | nil => rfl
  | cons t ts ih =>
    cases t with
    | char d => rw [List.cons_append, joinTokens, joinTokens, ih, List.cons_append]
    | opening => rw [List.cons_append, joinTokens, joinTokens, ih, List.cons_append]
    | push x =>
      rw [List.cons_append, joinTokens, joinTokens, ih, takeOver, takeOver,
        neighbour?_append_char hc]
      cases neighbour? (joinTokens ts) with
      | none => rfl
      | some p => rfl

theorem write_joinTokens_behind {ts : List Token} {s behind : List Char}
    (h : write (joinTokens ts) = s ++ '`' :: behind) (us : List Token) :
    ∃ s', write (joinTokens (us ++ ts)) = s' ++ '`' :: behind := by
  induction us with
  | nil => exact ⟨s, h⟩
  | cons t us ih =>
    obtain ⟨s', hs'⟩ := ih
    cases t with
    | char d => exact ⟨d :: s', congrArg (d :: ·) hs'⟩
    | opening => exact ⟨Push.opener ++ s', by simp [joinTokens, Token.text, hs']⟩
    | push x =>
      rw [List.cons_append, joinTokens, takeOver]
      cases hnext : neighbour? (joinTokens (us ++ ts)) with
      | none => exact ⟨Push.opener ++ x ++ Literal.closer ++ s', by simp [Token.text, hs']⟩
      | some p =>
        obtain ⟨n, hn⟩ := neighbour?_eq_some_iff.1 hnext
        have hfront : '`' ∉ List.replicate (n + 1) '\n' ++ Push.opener := by
          simp [Push.opener, List.mem_replicate]
        rw [hn] at hs'
        obtain ⟨w, -, hw⟩ := split_behind (t := p.1 ++ Literal.closer ++ write p.2) hfront
          (by simpa [Token.text, write_breaks] using hs')
        exact ⟨Push.opener ++ x ++ w, by simp [Token.text, ← hw]⟩

end Tokens

section Cut

variable {s t : List Char}

theorem backtick_notMem_seam (n : Nat) : '`' ∉ seam n := by
  simp [seam, Literal.closer, Push.opener, List.mem_replicate]

theorem Cut.split_backtick {u v : List Char} (h : Cut (u ++ '`' :: v) t) :
    ∃ a b, t = a ++ '`' :: b ∧ Cut u a ∧ Cut v b := by
  generalize htext : u ++ '`' :: v = text at h
  induction h generalizing u with
  | nil => simp at htext
  | @keep c s t h ih =>
    cases u with
    | nil =>
      obtain ⟨rfl, rfl⟩ := List.cons.inj htext
      exact ⟨[], t, rfl, .nil, h⟩
    | cons d u =>
      obtain ⟨rfl, hrest⟩ := List.cons.inj htext
      obtain ⟨a, b, rfl, ha, hb⟩ := ih hrest
      exact ⟨d :: a, b, rfl, ha.keep d, hb⟩
  | @drop n s t _ ih =>
    obtain ⟨w, rfl, hrest⟩ := split_behind (backtick_notMem_seam n) htext.symm
    obtain ⟨a, b, rfl, ha, hb⟩ := ih hrest.symm
    exact ⟨a, b, rfl, ha.drop n, hb⟩

theorem Cut.count_backtick (h : Cut s t) : t.count '`' = s.count '`' := by
  induction h with
  | nil => rfl
  | keep c _ ih => simp only [List.count_cons, ih]
  | drop n _ ih =>
    rw [List.count_append, List.count_eq_zero.2 (backtick_notMem_seam n), Nat.zero_add, ih]

theorem Cut.between_backticks {u v inner before kept after : List Char}
    (h : Cut (u ++ '`' :: (inner ++ '`' :: v)) (before ++ '`' :: (kept ++ '`' :: after)))
    (hkept : kept.count '`' = inner.count '`') (hafter : after.count '`' = v.count '`') :
    Cut u before ∧ Cut v after := by
  obtain ⟨a, b, hab, ha, hb⟩ := h.split_backtick
  obtain ⟨c, d, rfl, hc, hd⟩ := hb.split_backtick
  have hcount : (kept ++ '`' :: after).count '`' = (c ++ '`' :: d).count '`' := by
    simp only [List.count_append, List.count_cons_self, hkept, hafter, hc.count_backtick,
      hd.count_backtick]
  obtain ⟨rfl, hrest⟩ := eq_of_count hcount hab
  obtain ⟨rfl, rfl⟩ := eq_of_count (hafter.trans hd.count_backtick.symm) hrest
  exact ⟨ha, hd⟩

end Cut

section Join

variable {u v inner : List Char}

theorem join_fresh (hv : Literal.split? v = none)
    (h : tokens (u ++ '`' :: (inner ++ '`' :: v)) =
      tokens u ++ .char '`' :: tokens (inner ++ '`' :: v)) :
    ∃ before after, join (u ++ '`' :: (inner ++ '`' :: v)) =
        before ++ '`' :: (join inner ++ '`' :: after) ∧ Cut u before ∧ Cut v after := by
  have hbehind : write (joinTokens (.char '`' :: tokens (inner ++ '`' :: v))) =
      [] ++ '`' :: (join inner ++ '`' :: join v) := by
    rw [tokens_before_backtick hv, joinTokens, joinTokens_append_char (by decide)]
    simp [Token.text, join_eq_write]
  obtain ⟨before, hbefore⟩ := write_joinTokens_behind hbehind (tokens u)
  rw [← h, ← join_eq_write] at hbefore
  have hcut := cut_join (u ++ '`' :: (inner ++ '`' :: v))
  rw [hbefore] at hcut
  exact ⟨before, join v, hbefore,
    hcut.between_backticks (cut_join inner).count_backtick (cut_join v).count_backtick⟩

theorem join_within (hv : Literal.split? v = none) {us : List Token} {w x rest : List Char}
    (hinner : Literal.split? inner = some (x, rest))
    (h : tokens (u ++ '`' :: (inner ++ '`' :: v)) =
      us ++ .push (w ++ '`' :: x) :: tokens (rest ++ '`' :: v)) :
    ∃ before kept after, join (u ++ '`' :: (inner ++ '`' :: v)) =
        before ++ '`' :: (kept ++ '`' :: after) ∧
      Push.opener ++ kept = join (Push.opener ++ inner) ∧ Cut u before ∧ Cut v after := by
  obtain ⟨kept, hkept⟩ : ∃ kept, kept = x ++ (takeOver (joinTokens (tokens rest))).1 ++
    Literal.closer ++ write (takeOver (joinTokens (tokens rest))).2 := ⟨_, rfl⟩
  have hopener : Push.opener ++ kept = join (Push.opener ++ inner) := by
    rw [join_eq_write, tokens_opener, hinner]
    simp [joinTokens, Token.text, hkept]
  have hbehind : write (joinTokens (.push (w ++ '`' :: x) :: tokens (rest ++ '`' :: v))) =
      (Push.opener ++ w) ++ '`' :: (kept ++ '`' :: join v) := by
    rw [tokens_before_backtick hv, ← List.cons_append, joinTokens_append_char (by decide)]
    simp [joinTokens, Token.text, hkept, join_eq_write]
  obtain ⟨before, hbefore⟩ := write_joinTokens_behind hbehind us
  rw [← h, ← join_eq_write] at hbefore
  have hcut := cut_join (u ++ '`' :: (inner ++ '`' :: v))
  rw [hbefore] at hcut
  have hcount : kept.count '`' = inner.count '`' := by
    have hsame := (cut_join (Push.opener ++ inner)).count_backtick
    rw [← hopener, List.count_append, List.count_append] at hsame
    omega
  exact ⟨before, kept, join v, hbefore, hopener,
    hcut.between_backticks hcount (cut_join v).count_backtick⟩

end Join

section Squeeze

theorem squeeze_around {s t : List Char} (hs : '\n' ∉ s) (hne : s ≠ []) (ht : '\n' ∉ t)
    (before text after : List Char) :
    s ++ (squeeze false text ++ t) <:+:
      squeeze false (before ++ (s ++ (text ++ (t ++ after)))) := by
  rw [squeeze_append, squeeze_append, squeeze_append, squeeze_append, squeeze_of_newline_notMem hs,
    ends_of_newline_notMem hs hne, squeeze_of_newline_notMem ht]
  refine ⟨squeeze false before, squeeze (ends (ends false text) t) after, ?_⟩
  simp only [List.append_assoc]

theorem count_backtick_squeeze (broken : Bool) (text : List Char) :
    (squeeze broken text).count '`' = text.count '`' := by
  induction text generalizing broken with
  | nil => rfl
  | cons c text ih =>
    rw [squeeze]
    split
    · next hc =>
      obtain rfl : c = '\n' := by simpa using (Bool.and_eq_true_iff.1 hc).2
      rw [ih, List.count_cons_of_ne (by decide)]
    · rw [List.count_cons, List.count_cons, ih]

theorem count_backtick_condensed (text : List Char) :
    (collapse (join text)).count '`' = text.count '`' := by
  rw [collapse_eq_squeeze, count_backtick_squeeze, (cut_join text).count_backtick]

theorem collapse_opener (text : List Char) :
    collapse (Push.opener ++ text) = Push.opener ++ squeeze false text := by
  have hopener : '\n' ∉ Push.opener := by decide
  rw [collapse_eq_squeeze, squeeze_append, squeeze_of_newline_notMem hopener,
    ends_of_newline_notMem hopener (by decide)]

end Squeeze

end TemplateCode.Script

namespace TemplateCode.Render

open TemplateCode.Script TemplateCode.Tree

variable {o : Options}

def escapeCall (o : Options) (code : String) : String :=
  o.helpersName ++ ".escape(" ++ code ++ ").toHtmlString()"

section Script

variable {u inner v : List Char}

def callOpening (o : Options) : List Char := o.helpersName.toList ++ ".escape(".toList

def backtickCall (o : Options) (inner : List Char) : List Char :=
  callOpening o ++ '`' :: (inner ++ '`' :: ").toHtmlString()".toList)

theorem toList_escapeCall (o : Options) (inner : String) :
    (escapeCall o ("`" ++ inner ++ "`")).toList = backtickCall o inner.toList := by
  simp [escapeCall, backtickCall, callOpening]

def callingScript (o : Options) (u inner v : List Char) : List Char :=
  (u ++ callOpening o) ++ '`' :: (inner ++ '`' :: (").toHtmlString());".toList ++ '\n' :: v))

theorem split?_behind_call (v : List Char) :
    Literal.split? (").toHtmlString());".toList ++ '\n' :: v) = none :=
  Literal.split?_line (by decide) (by decide) v

section Valid

variable (hname : isIdentifier o.helpersName = true)

include hname

theorem quote_notMem_callOpening : '\'' ∉ callOpening o := by
  simp [callOpening, notMem_of_isIdentifier hname (c := '\'') (by decide)]

theorem backtickCall_infix {before kept after : List Char}
    (hjoin : join (callingScript o u inner v) = before ++ '`' :: (kept ++ '`' :: after))
    (hbefore : Cut (u ++ callOpening o) before)
    (hafter : Cut (").toHtmlString());".toList ++ '\n' :: v) after) :
    backtickCall o (squeeze false kept) <:+: collapse (join (callingScript o u inner v)) := by
  have hbreak : '\n' ∉ callOpening o ++ ['`'] := by
    simp [callOpening, notMem_of_isIdentifier hname (c := '\n') (by decide)]
  obtain ⟨w, rfl, -⟩ := hbefore.right (guarded_of_quote_notMem (quote_notMem_callOpening hname))
  have hend : ").toHtmlString());".toList = ").toHtmlString()".toList ++ ");".toList := by decide
  rw [hend, List.append_assoc] at hafter
  obtain ⟨w', rfl, -⟩ := hafter.left (by decide)
  have hinfix := squeeze_around (t := '`' :: ").toHtmlString()".toList) hbreak (by simp)
    (by decide) w kept w'
  rw [hjoin, collapse_eq_squeeze]
  simpa [backtickCall] using hinfix

theorem backtickCall_fresh
    (h : tokens (callingScript o u inner v) = tokens (u ++ callOpening o) ++ .char '`' ::
      tokens (inner ++ '`' :: (").toHtmlString());".toList ++ '\n' :: v))) :
    backtickCall o (collapse (join inner)) <:+: collapse (join (callingScript o u inner v)) := by
  obtain ⟨before, after, hjoin, hbefore, hafter⟩ := join_fresh (split?_behind_call v) h
  rw [collapse_eq_squeeze (join inner)]
  exact backtickCall_infix hname hjoin hbefore hafter

theorem backtickCall_within {us : List Token} {w x rest : List Char}
    (hinner : Literal.split? inner = some (x, rest))
    (h : tokens (callingScript o u inner v) = us ++ .push (w ++ '`' :: x) ::
      tokens (rest ++ '`' :: (").toHtmlString());".toList ++ '\n' :: v))) :
    ∃ code, Push.opener ++ code = collapse (join (Push.opener ++ inner)) ∧
      backtickCall o code <:+: collapse (join (callingScript o u inner v)) := by
  obtain ⟨before, kept, after, hjoin, hkept, hbefore, hafter⟩ :=
    join_within (split?_behind_call v) hinner h
  refine ⟨squeeze false kept, ?_, backtickCall_infix hname hjoin hbefore hafter⟩
  rw [← hkept, collapse_opener]

theorem backtickCall_cases (u inner v : List Char) :
    ∃ code, (code = collapse (join inner) ∨
        Push.opener ++ code = collapse (join (Push.opener ++ inner))) ∧
      backtickCall o code <:+: collapse (join (callingScript o u inner v)) := by
  rcases tokens_append_backtick (u ++ callOpening o)
    (inner ++ '`' :: (").toHtmlString());".toList ++ '\n' :: v)) with h | ⟨us, w, x, rest, -, hx, h⟩
  · exact ⟨_, .inl rfl, backtickCall_fresh hname h⟩
  · rw [split?_before_backtick (split?_behind_call v), Option.map_eq_some_iff] at hx
    obtain ⟨⟨x', rest'⟩, hinner, hpair⟩ := hx
    cases hpair
    obtain ⟨code, hcode, hinfix⟩ := backtickCall_within hname hinner h
    exact ⟨code, .inr hcode, hinfix⟩

end Valid

theorem eq_of_backtickCalls {out x y : List Char} (hcount : out.count '`' = 2)
    (hx : backtickCall o x <:+: out) (hy : backtickCall o y <:+: out) : x = y := by
  obtain ⟨p, q, rfl⟩ := hx
  obtain ⟨p', q', hsame⟩ := hy
  have hcount' := hcount
  rw [← hsame] at hcount'
  simp only [backtickCall, List.count_append, List.count_cons_self] at hcount hcount'
  have hsplit : (p ++ callOpening o) ++ '`' :: (x ++ '`' :: (").toHtmlString()".toList ++ q)) =
      (p' ++ callOpening o) ++ '`' :: (y ++ '`' :: (").toHtmlString()".toList ++ q')) := by
    simpa [backtickCall] using hsame.symm
  obtain ⟨-, hrest⟩ := eq_of_count
    (by simp only [List.count_append, List.count_cons_self]; omega) hsplit
  exact (eq_of_count (by simp only [List.count_append]; omega) hrest).1

end Script

theorem piecesEach_append (o : Options) (parent : Kind) (before after : List Node) :
    piecesEach o parent (before ++ after) =
      piecesEach o parent before ++ piecesEach o parent after := by
  induction before with
  | nil => rw [piecesEach, List.nil_append, List.nil_append]
  | cons node before ih => rw [List.cons_append, piecesEach, piecesEach, ih, List.cons_append]

def upToCall (o : Options) (before : List Node) : List Char :=
  (front o).toList ++
    (assemble (piecesEach o .program before).flatten ++ "\n__vbuffer.push(".toList)

theorem toList_wrap_backticks (hescape : o.htmlEscape = true) (before after : List Node)
    (inner : String) :
    (wrap o (body o (.program
        (before ++ .expression [.text ("`" ++ inner ++ "`")] :: after)))).toList =
      callingScript o (upToCall o before) inner.toList
        (assemble (piecesEach o .program after).flatten ++ (back o).toList) := by
  have hpieces : pieces o (some .program) (.expression [.text ("`" ++ inner ++ "`")]) =
      pushedPieces (escapedPieces o [raw ("`" ++ inner ++ "`")]) := by
    simp [pieces, piecesEach, isContent, Kind.isContent]
  rw [wrap_eq, String.toList_append, String.toList_append, toList_body, pieces, piecesEach_append,
    piecesEach, hpieces, List.flatten_append, List.flatten_cons, assemble_append, assemble_append]
  simp [callingScript, upToCall, callOpening, pushedPieces, escapedPieces, hescape, raw,
    Piece.written]

theorem generate_of_valid (hv : o.validate = .ok ()) (tree : Node) :
    generate o tree = .ok (condense (wrap o (body o tree))) := by
  rw [generate_eq, hv]
  rfl

theorem condense_eq_iff {source text : String} :
    condense source = text ↔ collapse (join source.toList) = text.toList := by
  rw [← String.toList_inj, condense, String.toList_ofList]

theorem generate_condenses_backticks (hv : o.validate = .ok ()) (hescape : o.htmlEscape = true)
    {nodes : List Node} {inner : String}
    (hnode : .expression [.text ("`" ++ inner ++ "`")] ∈ nodes) :
    ∃ out code, generate o (.program nodes) = .ok out ∧
      (condense inner = code ∨
        condense ("__vbuffer.push('" ++ inner) = "__vbuffer.push('" ++ code) ∧
      (escapeCall o ("`" ++ code ++ "`")).toList <:+: out.toList := by
  obtain ⟨before, after, rfl⟩ := List.append_of_mem hnode
  obtain ⟨code, hcode, hinfix⟩ := backtickCall_cases (isIdentifier_of_validate hv).1
    (upToCall o before) inner.toList
    (assemble (piecesEach o .program after).flatten ++ (back o).toList)
  rw [← toList_wrap_backticks hescape] at hinfix
  refine ⟨_, String.ofList code, generate_of_valid hv _, ?_, ?_⟩
  · simp only [condense_eq_iff, String.toList_append, String.toList_ofList]
    exact hcode.imp Eq.symm Eq.symm
  · rw [toList_escapeCall, condense, String.toList_ofList, String.toList_ofList]
    exact hinfix

/-- A block that ends in the middle of a literal, on a backslash that takes up the line break behind
the block. -/
def openBlock : Node := .block [] [] [.text "\n__vbuffer.push('\\"]

theorem tokens_behind_openBlock {x : List Char} (hx : Literal.Enclosed x) (more : List Char) :
    ∃ us w, tokens (upToCall .default [openBlock] ++ callOpening .default ++
        '`' :: (x ++ Literal.closer ++ more)) =
      us ++ .push (w ++ '`' :: x) :: tokens more := by
  obtain ⟨line, hline⟩ : ∃ line, line = (front .default).toList ++ "{}".toList := ⟨_, rfl⟩
  obtain ⟨w, hw⟩ : ∃ w, w = '\\' :: '\n' :: ("__vbuffer.push(".toList ++ callOpening .default) :=
    ⟨_, rfl⟩
  have hup : upToCall .default [openBlock] ++ callOpening .default =
      line ++ '\n' :: (Push.opener ++ w) := by
    rw [hline, hw]
    decide +kernel
  have hlast : ¬ ['\\'] <:+ line := by
    rw [hline]
    decide +kernel
  have hplain : Literal.Enclosed ("__vbuffer.push(".toList ++ callOpening .default) := by
    apply Literal.enclosed_of_plain
    simp [callOpening, Options.default, Literal.Plain]
  have hcontent : Literal.Enclosed (w ++ '`' :: x) := by
    rw [hw]
    exact (hplain.escape '\n').append (hx.plain (by decide))
  have htokens := tokens_push hcontent more
  refine ⟨tokens line ++ [.char '\n'], w, ?_⟩
  rw [List.append_assoc (tokens line), List.singleton_append, ← htokens, ← tokens_line hlast, hup]
  simp only [List.append_assoc, List.cons_append]

def Passed (before : List Node) (inner : String) : Prop :=
  ∃ out, generate .default (.program (before ++ [.expression [.text ("`" ++ inner ++ "`")]])) =
      .ok out ∧
    (escapeCall .default ("`" ++ inner ++ "`")).toList <:+: out.toList

section Passed

variable {inner : String} (hinner : '`' ∉ inner.toList)

include hinner

theorem code_eq_of_passed {before : List Node} (hpassed : Passed before inner) {code : List Char}
    (hbefore : '`' ∉ upToCall .default before ++ callOpening .default)
    (hcode : backtickCall .default code <:+: collapse (join
      (callingScript .default (upToCall .default before) inner.toList (back .default).toList))) :
    code = inner.toList := by
  have hwrap := toList_wrap_backticks (o := .default) rfl before [] inner
  obtain ⟨out, hout, hinfix⟩ := hpassed
  rw [generate_of_valid (by decide)] at hout
  cases hout
  simp only [piecesEach, List.flatten_nil, assemble_nil, List.nil_append] at hwrap
  rw [toList_escapeCall, condense, String.toList_ofList, hwrap] at hinfix
  -- There are only two backticks in the script, so the two calls are the same one.
  refine eq_of_backtickCalls ?_ hcode hinfix
  have hback : '`' ∉ ").toHtmlString());".toList ++ '\n' :: (back .default).toList := by
    decide +kernel
  rw [count_backtick_condensed, callingScript, List.count_append, List.count_eq_zero.2 hbefore,
    List.count_cons_self, List.count_append, List.count_eq_zero.2 hinner, List.count_cons_self,
    List.count_eq_zero.2 hback]

theorem condense_of_passed (hpassed : Passed [] inner) : condense inner = inner := by
  have hquote : '\'' ∉ upToCall .default [] ++ callOpening .default := by decide +kernel
  rw [condense_eq_iff]
  refine code_eq_of_passed hinner hpassed (by decide +kernel) ?_
  apply backtickCall_fresh (by decide)
  rcases tokens_append_backtick _ _ with h | ⟨us, w, x, rest, htext, -, -⟩
  · exact h
  · rw [htext] at hquote
    exact absurd (by simp [Push.opener]) hquote

theorem condense_opener_of_passed {p : List Char × List Char}
    (hread : Literal.split? inner.toList = some p) (hpassed : Passed [openBlock] inner) :
    condense ("__vbuffer.push('" ++ inner) = "__vbuffer.push('" ++ inner := by
  obtain ⟨x, rest⟩ := p
  obtain ⟨hx, htext⟩ := Literal.split?_eq_some_iff.1 hread
  obtain ⟨us, w, htokens⟩ := tokens_behind_openBlock hx
    (rest ++ '`' :: (").toHtmlString());".toList ++ '\n' :: (back .default).toList))
  rw [← List.append_assoc _ rest, ← htext, ← callingScript] at htokens
  obtain ⟨code, hcode, hinfix⟩ := backtickCall_within (by decide) hread htokens
  have hsame := code_eq_of_passed hinner hpassed (by decide +kernel) hinfix
  rw [condense_eq_iff, String.toList_append, ← hsame]
  exact hsame ▸ hcode.symm

end Passed

theorem condense_opener_of_unread {inner : String} (hread : Literal.split? inner.toList = none)
    (hself : condense inner = inner) :
    condense ("__vbuffer.push('" ++ inner) = "__vbuffer.push('" ++ inner := by
  have hjoin : join (Push.opener ++ inner.toList) = Push.opener ++ join inner.toList := by
    rw [join_eq_write, tokens_opener, hread, join_eq_write]
    rfl
  rw [condense_eq_iff, String.toList_append]
  change collapse (join (Push.opener ++ inner.toList)) = Push.opener ++ inner.toList
  rw [hjoin, collapse_opener, ← collapse_eq_squeeze, condense_eq_iff.1 hself]

/-- Code between backticks is passed to the helper as it is, in every program that has it as an
expression. -/
def PassesBackticks (o : Options) (inner : String) : Prop :=
  ∀ nodes : List Node, .expression [.text ("`" ++ inner ++ "`")] ∈ nodes →
    ∃ out, generate o (.program nodes) = .ok out ∧
      (escapeCall o ("`" ++ inner ++ "`")).toList <:+: out.toList

def StaysCondensed (inner : String) : Prop :=
  condense inner = inner ∧ condense ("__vbuffer.push('" ++ inner) = "__vbuffer.push('" ++ inner

theorem staysCondensed_of_passesBackticks {inner : String} (hinner : '`' ∉ inner.toList)
    (h : PassesBackticks .default inner) : StaysCondensed inner := by
  have hpassed (before : List Node) : Passed before inner := h _ (by simp)
  have hself := condense_of_passed hinner (hpassed [])
  refine ⟨hself, ?_⟩
  cases hread : Literal.split? inner.toList with
  | none => exact condense_opener_of_unread hread hself
  | some p => exact condense_opener_of_passed hinner hread (hpassed [openBlock])

/-- Code between backticks is passed as it is under all options if and only if condensing changes it
neither by itself nor behind an opener. Code that condensing does change is changed in some program
under the default options already. -/
theorem generate_passes_backticks_iff {inner : String} (hinner : '`' ∉ inner.toList) :
    ((∀ o : Options, o.validate = .ok () → o.htmlEscape = true → PassesBackticks o inner) ↔
      StaysCondensed inner) ∧
    (PassesBackticks .default inner ↔ StaysCondensed inner) := by
  have hdefault := staysCondensed_of_passesBackticks hinner
  have hpasses (hstays : StaysCondensed inner) (o : Options) (hv : o.validate = .ok ())
      (hescape : o.htmlEscape = true) : PassesBackticks o inner := by
    intro nodes hnode
    obtain ⟨out, code, hout, hcode, hinfix⟩ := generate_condenses_backticks hv hescape hnode
    have hsame : code = inner := by
      rcases hcode with hcode | hcode
      · exact hcode.symm.trans hstays.1
      · exact (String.append_right_inj _).1 (hcode.symm.trans hstays.2)
    exact ⟨out, hout, hsame ▸ hinfix⟩
  have hvalid : Options.default.validate = .ok () := by decide
  exact ⟨⟨fun hall => hdefault (hall .default hvalid rfl), hpasses⟩,
    ⟨hdefault, fun hstays => hpasses hstays .default hvalid rfl⟩⟩

theorem generate_passes_backticks_push :
    ∃ out, generate .default (.program [openBlock,
        .expression [.text ("`" ++ "x\n__vbuffer.push('y');" ++ "`")]]) = .ok out ∧
      (escapeCall .default ("`" ++ "x\n__vbuffer.push('y');" ++ "`")).toList <:+: out.toList :=
  (generate_passes_backticks_iff (by decide)).1.2 ⟨by decide +kernel, by decide +kernel⟩
    .default (by decide) rfl _ (by simp)

/-- Code that is changed between its backticks, with what stands before it: a blank line; two
literal pushes; and the end of a push that begins outside, with another one behind it. -/
def changedCode : List (List Node × String) :=
  [([], "a\n\nb"), ([], "__vbuffer.push('a');\n__vbuffer.push('b');"),
    ([openBlock], "');\n__vbuffer.push('b');")]

theorem generate_changes_backticks :
    Options.default.validate = .ok () ∧ Options.default.htmlEscape = true ∧
      ∀ p ∈ changedCode, ('`' ∉ p.2.toList ∧ '\\' ∉ p.2.toList ∧ '$' ∉ p.2.toList) ∧
        ∃ out, generate .default (.program (p.1 ++ [.expression [.text ("`" ++ p.2 ++ "`")]])) =
            .ok out ∧
          ¬ (escapeCall .default ("`" ++ p.2 ++ "`")).toList <:+: out.toList := by
  have hv : Options.default.validate = .ok () := by decide
  refine ⟨hv, rfl, fun p hp => ?_⟩
  have hclean : '`' ∉ p.2.toList ∧ '\\' ∉ p.2.toList ∧ '$' ∉ p.2.toList := by
    revert p
    decide
  refine ⟨hclean, _, generate_of_valid hv _, fun hinfix => ?_⟩
  have hpassed : Passed p.1 p.2 := ⟨_, generate_of_valid hv _, hinfix⟩
  simp only [changedCode, List.mem_cons, List.not_mem_nil, or_false] at hp
  rcases hp with rfl | rfl | rfl
  · exact absurd (condense_of_passed hclean.1 hpassed) (by decide +kernel)
  · exact absurd (condense_of_passed hclean.1 hpassed) (by decide +kernel)
  · exact absurd (condense_opener_of_passed hclean.1 rfl hpassed) (by decide +kernel)

end TemplateCode.Render
