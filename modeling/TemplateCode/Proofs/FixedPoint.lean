import TemplateCode.Proofs.Collapse
import TemplateCode.Proofs.Tokens

/-! The fixed points of condensing. A second pass leaves a script alone exactly when its tokens have
no two pushes with a single newline between them; the first pass alone does not ensure this, since
it can turn a push that was not literal into one that is. -/

namespace TemplateCode.Script

def Settled : List Token → Prop
  | [] => True
  | .push _ :: ts => neighbour? ts = none ∧ Settled ts
  | .char _ :: ts => Settled ts
  | .opening :: ts => Settled ts

theorem Settled.tail {t : Token} {ts : List Token} (h : Settled (t :: ts)) : Settled ts := by
  cases t with
  | char => exact h
  | opening => exact h
  | push => exact h.2

theorem Settled.right {us ts : List Token} (h : Settled (us ++ ts)) : Settled ts := by
  induction us with
  | nil => exact h
  | cons u us ih => exact ih h.tail

theorem settled_joinTokens (ts : List Token) : Settled (joinTokens ts) := by
  induction ts with
  | nil => exact trivial
  | cons t ts ih =>
    cases t with
    | char => exact ih
    | opening => exact ih
    | push x =>
      rw [joinTokens, takeOver]
      cases hnext : neighbour? (joinTokens ts) with
      | none => exact ⟨hnext, ih⟩
      | some p =>
        obtain ⟨n, hts⟩ := neighbour?_eq_some_iff.1 hnext
        rw [hts] at ih
        exact ih.right

theorem joinTokens_of_settled {ts : List Token} (h : Settled ts) : joinTokens ts = ts := by
  induction ts with
  | nil => rfl
  | cons t ts ih =>
    cases t with
    | char => rw [joinTokens, ih h]
    | opening => rw [joinTokens, ih h]
    | push x =>
      rw [joinTokens, ih h.2, takeOver, h.1, Option.getD_none, List.append_nil]

theorem length_takeOver_lt {ts : List Token} {p : List Char × List Token}
    (h : neighbour? ts = some p) :
    p.1.length + (write p.2).length < (write ts).length := by
  obtain ⟨n, rfl⟩ := neighbour?_eq_some_iff.1 h
  simp only [write_append, write_cons, Token.text, List.length_append, Literal.closer,
    List.length_cons]
  omega

theorem joinTokens_eq_or_shorter (ts : List Token) :
    joinTokens ts = ts ∨ (write (joinTokens ts)).length < (write ts).length := by
  induction ts with
  | nil => exact .inl rfl
  | cons t ts ih =>
    cases t with
    | char | opening =>
      rcases ih with ih | ih
      · exact .inl (by rw [joinTokens, ih])
      · refine .inr ?_
        simp only [joinTokens, write_cons, List.length_append]
        omega
    | push x =>
      rw [joinTokens, takeOver]
      cases hnext : neighbour? (joinTokens ts) with
      | none =>
        rcases ih with ih | ih
        · exact .inl (by rw [ih, Option.getD_none, List.append_nil])
        · refine .inr ?_
          simp only [Option.getD_none, write_cons, Token.text, List.length_append, List.append_nil]
          omega
      | some p =>
        refine .inr ?_
        have hlt := length_takeOver_lt hnext
        have hle : (write (joinTokens ts)).length ≤ (write ts).length := by
          rcases ih with ih | ih
          · rw [ih]
          · exact ih.le
        simp only [Option.getD_some, write_cons, Token.text, List.length_append]
        omega

theorem condense_eq_self_iff (text : List Char) :
    collapse (join text) = text ↔ Settled (tokens text) ∧ text.IsChain Single := by
  constructor
  · intro h
    -- Neither half makes a text longer, so at a fixed point neither makes it shorter.
    have hlen : text.length ≤ (join text).length := by
      have hsub := List.destutter_sublist Single (join text)
      rw [← collapse_eq_destutter, h] at hsub
      exact hsub.length_le
    rw [join_eq_write] at h hlen
    rcases joinTokens_eq_or_shorter (tokens text) with heq | hlt
    · rw [heq, write_tokens, collapse_eq_destutter, List.destutter_eq_self_iff] at h
      exact ⟨heq ▸ settled_joinTokens (tokens text), h⟩
    · rw [write_tokens] at hlt
      omega
  · rintro ⟨hsettled, hchain⟩
    rw [join_eq_write, joinTokens_of_settled hsettled, write_tokens, collapse_eq_destutter,
      List.destutter_of_isChain Single text hchain]

theorem settled_iff_of_isChain {ts : List Token} (hchain : (write ts).IsChain Single) :
    Settled ts ↔ ∀ x y, ¬ [.push x, .char '\n', .push y] <:+: ts := by
  constructor
  · rintro h x y ⟨us, vs, rfl⟩
    have hnone := (show Settled (us ++ .push x :: (.char '\n' :: .push y :: vs)) by
      simpa using h).right.1
    simp [neighbour?, next?] at hnone
  · intro h
    induction ts with
    | nil => exact trivial
    | cons t ts ih =>
      have hts : Settled ts := by
        refine ih ?_ fun x y hxy => h x y (hxy.trans (List.suffix_cons t ts).isInfix)
        rw [write_cons] at hchain
        exact hchain.right_of_append
      cases t with
      | char => exact hts
      | opening => exact hts
      | push x =>
        refine ⟨?_, hts⟩
        cases hnext : neighbour? ts with
        | none => rfl
        | some p =>
          obtain ⟨n, rfl⟩ := neighbour?_eq_some_iff.1 hnext
          cases n with
          | zero => exact absurd ⟨[], p.2, rfl⟩ (h x p.1)
          | succ n =>
            have hbreaks : (write (List.replicate (n + 2) (.char '\n'))).IsChain Single := by
              rw [write_cons, write_append] at hchain
              exact hchain.right_of_append.left_of_append
            have hsplit : write (List.replicate (n + 2) (.char '\n')) =
                ['\n', '\n'] ++ write (List.replicate n (.char '\n')) := rfl
            rw [hsplit] at hbreaks
            exact absurd hbreaks.left_of_append (by decide)

/-- Condensing twice is condensing once exactly when the first pass leaves no two literal pushes on
neighbouring lines. -/
theorem condense_condense_eq_iff (source : String) :
    condense (condense source) = condense source ↔
      ∀ x y, ¬ [.push x, .char '\n', .push y] <:+: tokens (condense source).toList := by
  have hchain : (condense source).toList.IsChain Single := by
    rw [condense, String.toList_ofList, collapse_eq_destutter]
    exact List.isChain_destutter Single _
  have hself : condense (condense source) = condense source ↔
      collapse (join (condense source).toList) = (condense source).toList := by
    rw [condense, ← String.toList_inj, String.toList_ofList]
  rw [hself, condense_eq_self_iff, ← settled_iff_of_isChain (by rwa [write_tokens])]
  exact and_iff_left hchain

/-- The second newline after a backslash keeps the first push from being literal; once the run is
shortened the backslash takes the newline that is left, and the push has become literal. -/
theorem condense_condense_ne :
    condense (condense "__vbuffer.push('a\\\n\n');\n__vbuffer.push('b');") ≠
      condense "__vbuffer.push('a\\\n\n');\n__vbuffer.push('b');" := by
  decide +kernel

end TemplateCode.Script
