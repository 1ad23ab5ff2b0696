import TemplateCode.Proofs.Collapse
import TemplateCode.Proofs.Layout

/-! Scripts whose brackets match. They are read from left to right with the closing brackets that
are due; what stands in a quoted literal is passed over. A push of a static text changes nothing of
what is due, whatever the text says, and so neither do joining and shortening. -/

namespace TemplateCode.Script

inductive Quote where
  | single
  | double
  deriving DecidableEq, Repr

def Quote.char : Quote → Char
  | .single => '\''
  | .double => '"'

/-- A reader stands in code, or in a literal that the given quote will end, perhaps right after a
backslash. -/
inductive Mode where
  | code
  | literal (quote : Quote)
  | escape (quote : Quote)
  deriving DecidableEq, Repr

structure Position where
  mode : Mode
  due : List Char
  deriving DecidableEq, Repr

def close? (bracket : Char) : List Char → Option (List Char)
  | [] => none
  | next :: rest => if next = bracket then some rest else none

def readCode (due : List Char) : Char → Option Position
  | '\'' => some ⟨.literal .single, due⟩
  | '"' => some ⟨.literal .double, due⟩
  | '(' => some ⟨.code, ')' :: due⟩
  | '[' => some ⟨.code, ']' :: due⟩
  | '{' => some ⟨.code, '}' :: due⟩
  | ')' => (close? ')' due).map (⟨.code, ·⟩)
  | ']' => (close? ']' due).map (⟨.code, ·⟩)
  | '}' => (close? '}' due).map (⟨.code, ·⟩)
  | _ => some ⟨.code, due⟩

def readChar : Position → Char → Option Position
  | ⟨.escape quote, due⟩, _ => some ⟨.literal quote, due⟩
  | ⟨.literal quote, due⟩, c =>
    if c = '\\' then some ⟨.escape quote, due⟩
    else if c = quote.char then some ⟨.code, due⟩
    else some ⟨.literal quote, due⟩
  | ⟨.code, due⟩, c => readCode due c

def Leads (text : List Char) (p q : Position) : Prop := text.foldlM readChar p = some q

instance (text : List Char) (p q : Position) : Decidable (Leads text p q) :=
  inferInstanceAs (Decidable (_ = _))

def Balanced (text : List Char) : Prop := Leads text ⟨.code, []⟩ ⟨.code, []⟩

instance : DecidablePred Balanced := fun text =>
  inferInstanceAs (Decidable (Leads text ⟨.code, []⟩ ⟨.code, []⟩))

theorem Leads.append {s t : List Char} {p q r : Position} (hs : Leads s p q) (ht : Leads t q r) :
    Leads (s ++ t) p r := by
  rw [Leads, List.foldlM_append, show s.foldlM readChar p = some q from hs]
  exact ht

def Ordinary (c : Char) : Prop := c ∉ ['\'', '"', '(', '[', '{', ')', ']', '}']

instance : DecidablePred Ordinary := fun c =>
  inferInstanceAs (Decidable (c ∉ ['\'', '"', '(', '[', '{', ')', ']', '}']))

theorem readCode_of_ordinary {c : Char} (hc : Ordinary c) (due : List Char) :
    readCode due c = some ⟨.code, due⟩ := by
  simp only [Ordinary, List.mem_cons, not_or, List.not_mem_nil, not_false_eq_true, and_true] at hc
  obtain ⟨hsingle, hdouble, hround, hsquare, hcurly, hround', hsquare', hcurly'⟩ := hc
  rw [readCode] <;> assumption

theorem close?_frame {bracket : Char} {due rest : List Char} (h : close? bracket due = some rest)
    (more : List Char) : close? bracket (due ++ more) = some (rest ++ more) := by
  cases due with
  | nil => cases h
  | cons next due =>
    rw [close?] at h
    split at h
    · next heq =>
      cases h
      exact if_pos heq
    · cases h

theorem readCode_frame {due : List Char} {c : Char} {q : Position}
    (h : readCode due c = some q) (more : List Char) :
    readCode (due ++ more) c = some ⟨q.mode, q.due ++ more⟩ := by
  by_cases hc : Ordinary c
  · rw [readCode_of_ordinary hc] at h ⊢
    cases h
    rfl
  · have hclose : ∀ bracket, (close? bracket due).map (⟨.code, ·⟩) = some q →
        (close? bracket (due ++ more)).map (⟨.code, ·⟩) = some (Position.mk q.mode (q.due ++ more)) := by
      intro bracket h
      obtain ⟨rest, hrest, rfl⟩ := Option.map_eq_some_iff.1 h
      rw [close?_frame hrest more]
      rfl
    simp only [Ordinary, not_not, List.mem_cons, List.not_mem_nil, or_false] at hc
    rcases hc with rfl | rfl | rfl | rfl | rfl | rfl | rfl | rfl
    case inl | inr.inl | inr.inr.inl | inr.inr.inr.inl | inr.inr.inr.inr.inl =>
      cases h
      rfl
    all_goals exact hclose _ h

theorem readChar_frame {p q : Position} {c : Char} (h : readChar p c = some q)
    (more : List Char) : readChar ⟨p.mode, p.due ++ more⟩ c = some ⟨q.mode, q.due ++ more⟩ := by
  obtain ⟨mode, due⟩ := p
  cases mode with
  | code => exact readCode_frame h more
  | literal quote =>
    simp only [readChar] at h ⊢
    split_ifs at h ⊢ <;> cases h <;> rfl
  | escape quote =>
    cases h
    rfl

/-- What is due already does not matter to a text that never gets to it. -/
theorem Leads.frame {text : List Char} {p q : Position} (h : Leads text p q)
    (more : List Char) : Leads text ⟨p.mode, p.due ++ more⟩ ⟨q.mode, q.due ++ more⟩ := by
  induction text generalizing p with
  | nil =>
    cases h
    rfl
  | cons c text ih =>
    rw [Leads, List.foldlM_cons] at h ⊢
    obtain ⟨between, hc, htext⟩ := Option.bind_eq_some_iff.1 h
    rw [readChar_frame hc more]
    exact ih htext

/-- A text that can stand anywhere in code: it leaves what is due as it was. -/
def Neutral (text : List Char) : Prop := ∀ due, Leads text ⟨.code, due⟩ ⟨.code, due⟩

theorem neutral_of_balanced {text : List Char} (h : Balanced text) : Neutral text :=
  fun due => h.frame due

theorem Leads.neutral {s t : List Char} {p : Position} {due : List Char}
    (hs : Leads s p ⟨.code, due⟩) (ht : Neutral t) : Leads (s ++ t) p ⟨.code, due⟩ :=
  hs.append (ht due)

theorem Neutral.append {s t : List Char} (hs : Neutral s) (ht : Neutral t) : Neutral (s ++ t) :=
  fun due => (hs due).append (ht due)

theorem Neutral.between {before s after brackets : List Char}
    (hbefore : Leads before ⟨.code, []⟩ ⟨.code, brackets⟩) (hs : Neutral s)
    (hafter : Leads after ⟨.code, brackets⟩ ⟨.code, []⟩) : Neutral (before ++ s ++ after) :=
  fun due => ((hbefore.frame due).append (hs (brackets ++ due))).append (hafter.frame due)

theorem neutral_of_ordinary {text : List Char} (h : ∀ c ∈ text, Ordinary c) : Neutral text := by
  intro due
  induction text with
  | nil => rfl
  | cons c text ih =>
    rw [List.forall_mem_cons] at h
    rw [Leads, List.foldlM_cons, readChar, readCode_of_ordinary h.1]
    exact ih h.2

/-! What stands in a literal. -/

def Inside (quote : Quote) (text : List Char) : Prop :=
  ∀ due, Leads text ⟨.literal quote, due⟩ ⟨.literal quote, due⟩

theorem inside_nil (quote : Quote) : Inside quote [] := fun _ => rfl

theorem Inside.append {quote : Quote} {s t : List Char} (hs : Inside quote s)
    (ht : Inside quote t) : Inside quote (s ++ t) := fun due => (hs due).append (ht due)

theorem inside_char (quote : Quote) {c : Char} (hb : c ≠ '\\') (hq : c ≠ quote.char) :
    Inside quote [c] := by
  intro due
  rw [Leads, List.foldlM_cons, readChar, if_neg hb, if_neg hq]
  rfl

theorem inside_of_enclosed {x : List Char} (hx : Literal.Enclosed x) : Inside .single x := by
  induction hx with
  | nil => exact inside_nil .single
  | escape c _ ih => exact fun due => ih due
  | plain hc _ ih => exact (inside_char .single hc.1 hc.2.1).append ih

theorem neutral_statement (text : List Char) : Neutral (statement text) := by
  have hopen : Leads ('\n' :: Push.opener) ⟨.code, []⟩ ⟨.literal .single, [')']⟩ := by decide
  have hclose : Leads (Literal.closer ++ ['\n']) ⟨.literal .single, [')']⟩ ⟨.code, []⟩ := by decide
  intro due
  have hcontent := inside_of_enclosed (Literal.enclosed_encoded text) (')' :: due)
  have hstatement := (hopen.frame due).append (hcontent.append (hclose.frame due))
  simpa [statement] using hstatement

/-! Shortening runs of newlines. -/

def Position.Settled (p : Position) : Prop := ∀ quote, p.mode ≠ .escape quote

theorem readChar_newline {p : Position} (hp : p.Settled) : readChar p '\n' = some p := by
  obtain ⟨mode, due⟩ := p
  cases mode with
  | code => rfl
  | literal quote => cases quote <;> rfl
  | escape quote => exact absurd rfl (hp quote)

theorem settled_of_newline {p q : Position} (h : readChar p '\n' = some q) : q.Settled := by
  obtain ⟨mode, due⟩ := p
  intro quote hmode
  cases mode with
  | code =>
    cases h
    cases hmode
  | literal other =>
    cases other <;> cases h <;> cases hmode
  | escape other =>
    cases h
    cases hmode

theorem foldlM_squeeze (broken : Bool) {p : Position} (hp : broken = true → p.Settled)
    (text : List Char) : (squeeze broken text).foldlM readChar p = text.foldlM readChar p := by
  induction text generalizing broken p with
  | nil => rfl
  | cons c text ih =>
    rw [squeeze]
    split
    · next hdrop =>
      -- A newline is dropped only after another one, where it cannot be escaped.
      obtain ⟨hbroken, hc⟩ := Bool.and_eq_true_iff.1 hdrop
      rw [List.foldlM_cons, beq_iff_eq.1 hc, readChar_newline (hp hbroken)]
      exact ih true (fun _ => hp hbroken)
    · rw [List.foldlM_cons, List.foldlM_cons]
      refine Option.bind_congr (fun q hq => ih (c == '\n') fun hc => ?_)
      rw [beq_iff_eq.1 hc] at hq
      exact settled_of_newline hq

theorem balanced_collapse_iff {text : List Char} : Balanced (collapse text) ↔ Balanced text := by
  rw [Balanced, Leads, collapse_eq_squeeze, foldlM_squeeze false nofun]
  rfl

/-! Joining static texts. -/

def Bare (text : List Char) : Prop := '\'' ∉ text ∧ '"' ∉ text

instance : DecidablePred Bare := fun text =>
  inferInstanceAs (Decidable ('\'' ∉ text ∧ '"' ∉ text))

theorem Bare.append {s t : List Char} (hs : Bare s) (ht : Bare t) : Bare (s ++ t) := by
  constructor
  · rw [List.mem_append, not_or]
    exact ⟨hs.1, ht.1⟩
  · rw [List.mem_append, not_or]
    exact ⟨hs.2, ht.2⟩

theorem mode_of_readCode {due : List Char} {c : Char} {q : Position} (hs : c ≠ '\'')
    (hd : c ≠ '"') (h : readCode due c = some q) : q.mode = .code := by
  by_cases hc : Ordinary c
  · rw [readCode_of_ordinary hc] at h
    cases h
    rfl
  · have hclose : ∀ bracket, (close? bracket due).map (⟨.code, ·⟩) = some q → q.mode = .code := by
      intro bracket h
      obtain ⟨rest, -, rfl⟩ := Option.map_eq_some_iff.1 h
      rfl
    simp only [Ordinary, not_not, List.mem_cons, List.not_mem_nil, or_false, hs, hd,
      false_or] at hc
    rcases hc with rfl | rfl | rfl | rfl | rfl | rfl
    case inl | inr.inl | inr.inr.inl =>
      cases h
      rfl
    all_goals exact hclose _ h

theorem mode_of_bare {text : List Char} (htext : Bare text) {due : List Char} {q : Position}
    (h : Leads text ⟨.code, due⟩ q) : q.mode = .code := by
  induction text generalizing due with
  | nil =>
    cases h
    rfl
  | cons c text ih =>
    rw [Leads, List.foldlM_cons] at h
    obtain ⟨⟨mode, due'⟩, hc, hrest⟩ := Option.bind_eq_some_iff.1 h
    obtain rfl : mode = .code :=
      mode_of_readCode (fun he => htext.1 (he ▸ List.mem_cons_self))
        (fun he => htext.2 (he ▸ List.mem_cons_self)) hc
    exact ih ⟨fun hm => htext.1 (List.mem_cons_of_mem c hm),
      fun hm => htext.2 (List.mem_cons_of_mem c hm)⟩ hrest

theorem foldlM_neutral {s : List Char} (hs : Neutral s) (due rest : List Char) :
    (s ++ rest).foldlM readChar ⟨.code, due⟩ = rest.foldlM readChar ⟨.code, due⟩ := by
  rw [List.foldlM_append, show s.foldlM readChar ⟨.code, due⟩ = _ from hs due]
  rfl

theorem foldlM_bare {code : List Char} (hcode : Bare code) {s t : List Char}
    (hst : ∀ due, s.foldlM readChar ⟨.code, due⟩ = t.foldlM readChar ⟨.code, due⟩)
    (due : List Char) :
    (code ++ s).foldlM readChar ⟨.code, due⟩ = (code ++ t).foldlM readChar ⟨.code, due⟩ := by
  rw [List.foldlM_append, List.foldlM_append]
  refine Option.bind_congr (fun q hq => ?_)
  obtain ⟨mode, due'⟩ := q
  obtain rfl : mode = .code := mode_of_bare hcode hq
  exact hst due'

theorem foldlM_grouped {gs : List Segment} (hgs : ∀ g ∈ gs, Bare g.code) (due : List Char) :
    (writeSegments (grouped gs)).foldlM readChar ⟨.code, due⟩ =
      (writeSegments gs).foldlM readChar ⟨.code, due⟩ := by
  have hwrite : ∀ (g : Segment) (gs : List Segment),
      writeSegments (g :: gs) = statement g.text ++ (g.code ++ writeSegments gs) := by
    intro g gs
    rw [writeSegments, List.flatMap_cons, List.append_assoc]
    rfl
  induction gs generalizing due with
  | nil => rfl
  | cons g gs ih =>
    rw [List.forall_mem_cons] at hgs
    -- The rest of the groups stands behind the code of this segment, joined or not.
    have hrest : (g.code ++ writeSegments (grouped gs)).foldlM readChar ⟨.code, due⟩ =
        (writeSegments (g :: gs)).foldlM readChar ⟨.code, due⟩ := by
      rw [hwrite, foldlM_neutral (neutral_statement g.text)]
      exact foldlM_bare hgs.1 (ih hgs.2) due
    rw [← hrest, grouped]
    cases hgroups : grouped gs with
    | nil =>
      rw [hwrite, foldlM_neutral (neutral_statement g.text)]
    | cons h hs =>
      show (writeSegments (if g.code.all (· == '\n') then _ else _)).foldlM readChar _ = _
      split
      · next hall =>
        have hbreaks : Neutral g.code := by
          refine neutral_of_ordinary (fun c hc => ?_)
          rw [beq_iff_eq.1 (List.all_eq_true.1 hall c hc)]
          decide
        rw [foldlM_neutral hbreaks, hwrite, hwrite, foldlM_neutral (neutral_statement _),
          foldlM_neutral (neutral_statement _)]
      · rw [hwrite, foldlM_neutral (neutral_statement g.text)]

theorem foldlM_layout {ps : List Piece} (hps : ∀ run ∈ codeRuns ps, Bare run) (due : List Char) :
    (layout ps).foldlM readChar ⟨.code, due⟩ = (assemble ps).foldlM readChar ⟨.code, due⟩ := by
  rw [codeRuns, List.forall_mem_cons, List.forall_mem_map] at hps
  rw [layout, assemble_eq]
  exact foldlM_bare hps.1 (foldlM_grouped hps.2) due

theorem neutral_layout {ps : List Piece} (hps : ∀ run ∈ codeRuns ps, Bare run)
    (h : Neutral (assemble ps)) : Neutral (layout ps) :=
  fun due => (foldlM_layout hps due).trans (h due)

end TemplateCode.Script
