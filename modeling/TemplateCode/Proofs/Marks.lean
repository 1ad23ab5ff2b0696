import TemplateCode.Proofs.Lines

/-! What joining takes out of a script, marked in the script itself: the seams between two literal
pushes that only newlines separate, all of these, and nothing else. -/

namespace TemplateCode.Script

/-- The text between the contents of two literal pushes that `n + 1` newlines separate. -/
def seam (n : Nat) : List Char := Literal.closer ++ List.replicate (n + 1) '\n' ++ Push.opener

inductive Mark where
  | stays (c : Char)
  | goes (n : Nat)
  deriving DecidableEq, Repr

def Mark.text : Mark → List Char
  | .stays c => [c]
  | .goes n => seam n

def Mark.left : Mark → List Char
  | .stays c => [c]
  | .goes _ => []

def marked (ms : List Mark) : List Char := ms.flatMap Mark.text

def remaining (ms : List Mark) : List Char := ms.flatMap Mark.left

def Goes (ms : List Mark) (before : List Char) (n : Nat) : Prop :=
  ∃ ps qs, ms = ps ++ .goes n :: qs ∧ marked ps = before

def Behind (cs : List Char) (places : List Char → Nat → Prop) (before : List Char) (n : Nat) :
    Prop :=
  ∃ b, before = cs ++ b ∧ places b n

theorem behind_nil (places : List Char → Nat → Prop) : Behind [] places = places := by
  funext before n
  simp [Behind]

theorem behind_append (cs ds : List Char) (places : List Char → Nat → Prop) :
    Behind (cs ++ ds) places = Behind cs (Behind ds places) := by
  funext before n
  refine propext ⟨?_, ?_⟩
  · rintro ⟨b, rfl, hb⟩
    exact ⟨ds ++ b, List.append_assoc cs ds b, b, rfl, hb⟩
  · rintro ⟨_, rfl, b, rfl, hb⟩
    exact ⟨b, (List.append_assoc cs ds b).symm, hb⟩

theorem behind_or (cs : List Char) (places others : List Char → Nat → Prop) :
    Behind cs (fun before n => places before n ∨ others before n) =
      fun before n => Behind cs places before n ∨ Behind cs others before n := by
  funext before n
  simp only [Behind, and_or_left, exists_or]

theorem goes_cons (m : Mark) (ms : List Mark) :
    Goes (m :: ms) = fun before n =>
      (before = [] ∧ m = .goes n) ∨ Behind m.text (Goes ms) before n := by
  funext before n
  refine propext ⟨?_, ?_⟩
  · rintro ⟨ps, qs, hms, rfl⟩
    cases ps with
    | nil => exact .inl ⟨rfl, (List.cons.inj hms).1⟩
    | cons p ps =>
      obtain ⟨rfl, htail⟩ := List.cons.inj hms
      exact .inr ⟨marked ps, rfl, ps, qs, htail, rfl⟩
  · rintro (⟨rfl, rfl⟩ | ⟨_, rfl, ps, qs, rfl, rfl⟩)
    · exact ⟨[], ms, rfl, rfl⟩
    · exact ⟨m :: ps, qs, rfl, rfl⟩

/-- One text becomes another by losing its seams at the given places, and nothing else. -/
def Loses (s t : List Char) (places : List Char → Nat → Prop) : Prop :=
  ∃ ms, marked ms = s ∧ remaining ms = t ∧ Goes ms = places

theorem loses_nil : Loses [] [] fun _ _ => False := by
  refine ⟨[], rfl, rfl, ?_⟩
  funext before n
  simp [Goes]

section Loses

variable {s t : List Char} {places : List Char → Nat → Prop}

theorem Loses.keep (h : Loses s t places) (cs : List Char) :
    Loses (cs ++ s) (cs ++ t) (Behind cs places) := by
  induction cs with
  | nil =>
    rw [behind_nil]
    exact h
  | cons c cs ih =>
    obtain ⟨ms, hs, ht, hgoes⟩ := ih
    refine ⟨.stays c :: ms, congrArg (c :: ·) hs, congrArg (c :: ·) ht, ?_⟩
    rw [goes_cons, hgoes, ← List.singleton_append, behind_append]
    simp [Mark.text]

theorem Loses.drop (h : Loses s t places) (n : Nat) :
    Loses (seam n ++ s) t fun before k =>
      (before = [] ∧ n = k) ∨ Behind (seam n) places before k := by
  obtain ⟨ms, hs, ht, hgoes⟩ := h
  refine ⟨.goes n :: ms, congrArg (seam n ++ ·) hs, ht, ?_⟩
  rw [goes_cons, hgoes]
  simp [Mark.text]

end Loses

def Follows (ts : List Token) (n : Nat) : Prop :=
  ∃ y vs, ts = List.replicate (n + 1) (.char '\n') ++ .push y :: vs

def Between (ts : List Token) (before : List Char) (n : Nat) : Prop :=
  ∃ us x vs, ts = us ++ .push x :: vs ∧ Follows vs n ∧ before = write us ++ (Push.opener ++ x)

theorem between_nil : Between [] = fun _ _ => False := by
  funext before n
  simp [Between]

theorem between_cons_of_ne {t : Token} (ht : ∀ x, t ≠ .push x) (ts : List Token) :
    Between (t :: ts) = Behind t.text (Between ts) := by
  funext before n
  refine propext ⟨?_, ?_⟩
  · rintro ⟨us, x, vs, hts, hvs, rfl⟩
    cases us with
    | nil => exact absurd (List.cons.inj hts).1 (ht x)
    | cons u us =>
      obtain ⟨rfl, htail⟩ := List.cons.inj hts
      exact ⟨_, List.append_assoc _ _ _, us, x, vs, htail, hvs, rfl⟩
  · rintro ⟨_, rfl, us, x, vs, rfl, hvs, rfl⟩
    exact ⟨t :: us, x, vs, rfl, hvs, (List.append_assoc _ _ _).symm⟩

theorem between_push (x : List Char) (ts : List Token) :
    Between (.push x :: ts) = fun before n =>
      Behind (Push.opener ++ x) (fun b k => b = [] ∧ Follows ts k) before n ∨
        Behind (Token.push x).text (Between ts) before n := by
  funext before n
  refine propext ⟨?_, ?_⟩
  · rintro ⟨us, y, vs, hts, hvs, rfl⟩
    cases us with
    | nil =>
      obtain ⟨hx, rfl⟩ := List.cons.inj hts
      cases hx
      exact .inl ⟨[], by simp, rfl, hvs⟩
    | cons u us =>
      obtain ⟨rfl, htail⟩ := List.cons.inj hts
      exact .inr ⟨_, List.append_assoc _ _ _, us, y, vs, htail, hvs, rfl⟩
  · rintro (⟨_, rfl, rfl, hvs⟩ | ⟨_, rfl, us, y, vs, rfl, hvs, rfl⟩)
    · exact ⟨[], x, ts, rfl, hvs, by simp⟩
    · exact ⟨.push x :: us, y, vs, rfl, hvs, (List.append_assoc _ _ _).symm⟩

theorem between_breaks (k : Nat) (ts : List Token) :
    Between (List.replicate k (.char '\n') ++ ts) = Behind (List.replicate k '\n') (Between ts) := by
  induction k with
  | zero => exact (behind_nil _).symm
  | succ k ih =>
    have hbreak := between_cons_of_ne (t := .char '\n') (fun _ => nofun)
    rw [List.replicate_succ, List.cons_append, hbreak, ih, ← behind_append]
    rfl

theorem breaks_inj {k n : Nat} {x y : List Char} {us vs : List Token}
    (h : List.replicate k (.char '\n') ++ .push x :: us =
      List.replicate n (.char '\n') ++ .push y :: vs) : k = n := by
  induction k generalizing n with
  | zero =>
    cases n with
    | zero => rfl
    | succ n => exact nomatch (List.cons.inj h).1
  | succ k ih =>
    cases n with
    | zero => exact nomatch (List.cons.inj h).1
    | succ n => rw [ih (List.cons.inj h).2]

theorem follows_breaks_iff (k : Nat) (y : List Char) (vs : List Token) (n : Nat) :
    Follows (List.replicate (k + 1) (.char '\n') ++ .push y :: vs) n ↔ k = n := by
  constructor
  · rintro ⟨z, ws, h⟩
    exact Nat.succ.inj (breaks_inj h)
  · rintro rfl
    exact ⟨y, vs, rfl⟩

theorem not_follows_of_neighbour?_eq_none {ts : List Token} (h : neighbour? ts = none) (n : Nat) :
    ¬ Follows ts n := by
  rintro ⟨y, vs, hts⟩
  rw [neighbour?_eq_some_iff.2 ⟨n, hts⟩] at h
  cases h

theorem write_breaks (n : Nat) :
    write (List.replicate n (.char '\n')) = List.replicate n '\n' := by
  rw [← List.map_replicate, write_map_char]

theorem loses_joinTokens (ts : List Token) :
    Loses (write ts) (write (joinTokens ts)) (Between ts) ∧
      Loses (Literal.closer ++ write ts)
        ((takeOver (joinTokens ts)).1 ++ (Literal.closer ++ write (takeOver (joinTokens ts)).2))
        (fun before n => (before = [] ∧ Follows ts n) ∨
          Behind Literal.closer (Between ts) before n) := by
  -- On the length, since the tokens behind a neighbour are no direct tail. The second half is what
  -- a push does with the tokens behind its closer: it drops a seam or keeps the closer.
  induction hlen : ts.length using Nat.strongRecOn generalizing ts with
  | ind len ih =>
    have hwrite : Loses (write ts) (write (joinTokens ts)) (Between ts) := by
      match ts with
      | [] =>
        rw [between_nil]
        exact loses_nil
      | .char _ :: us | .opening :: us =>
        have hkeep := (ih us.length (by simp [← hlen]) us rfl).1.keep
        rw [between_cons_of_ne]
        · exact hkeep _
        · exact fun _ => nofun
      | .push x :: us =>
        have hpush := (ih us.length (by simp [← hlen]) us rfl).2.keep (Push.opener ++ x)
        simp only [between_push, joinTokens, write_cons, Token.text, List.append_assoc, behind_or,
          behind_append] at hpush ⊢
        exact hpush
    refine ⟨hwrite, ?_⟩
    cases hnext : neighbour? ts with
    | none =>
      have hnone := not_follows_of_neighbour?_eq_none hnext
      rw [takeOver, neighbour?_joinTokens, hnext]
      simpa [hnone] using hwrite.keep Literal.closer
    | some p =>
      obtain ⟨n, rfl⟩ := neighbour?_eq_some_iff.1 hnext
      have hlt : p.2.length < len := by
        simp only [List.length_append, List.length_cons] at hlen
        omega
      have hdrop := (((ih _ hlt p.2 rfl).2.keep p.1).drop n)
      rw [takeOver, neighbour?_joinTokens, hnext]
      simp only [between_breaks, between_push, follows_breaks_iff, seam, behind_append, behind_or,
        Token.text] at hdrop ⊢
      simpa [write_breaks, Token.text, seam] using hdrop

theorem loses_join (text : List Char) : Loses text (join text) (Between (tokens text)) := by
  have h := (loses_joinTokens (tokens text)).1
  rwa [write_tokens, ← join_eq_write] at h

/-- Joining takes seams out of a text and does nothing else to it. The seams that go are those
between two neighbouring literal pushes, as the text is read from the left; so a content that an
opener begins stands before each of them, and a content that the closer ends stands behind it. -/
theorem join_takes_out_seams (text : List Char) :
    ∃ ms, marked ms = text ∧ remaining ms = join text ∧
      (∀ before n, Goes ms before n ↔ Between (tokens text) before n) ∧
      ∀ ps n qs, ms = ps ++ .goes n :: qs →
        (∃ before x, Literal.Enclosed x ∧ marked ps = before ++ (Push.opener ++ x)) ∧
          ∃ y after, Literal.Enclosed y ∧ marked qs = y ++ (Literal.closer ++ after) := by
  obtain ⟨ms, hmarked, hremaining, hgoes⟩ := loses_join text
  refine ⟨ms, hmarked, hremaining, fun before n => by rw [hgoes], ?_⟩
  rintro ps n qs rfl
  have hbetween : Between (tokens text) (marked ps) n := hgoes ▸ ⟨ps, qs, rfl, rfl⟩
  obtain ⟨us, x, _, htokens, ⟨y, vs, rfl⟩, hps⟩ := hbetween
  have henclosed : ∀ z, .push z ∈ tokens text → Literal.Enclosed z :=
    fun _ => enclosed_of_mem_tokens
  rw [htokens] at henclosed
  refine ⟨⟨write us, x, henclosed x (by simp), hps⟩, y, write vs, henclosed y (by simp), ?_⟩
  have htext : marked ps ++ (seam n ++ marked qs) = write (tokens text) := by
    rw [write_tokens, ← hmarked]
    simp [marked, Mark.text]
  rw [htokens, hps] at htext
  simpa [Token.text, seam, write_breaks] using htext

end TemplateCode.Script
