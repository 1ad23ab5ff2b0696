import TemplateCode.Proofs.Literal
import TemplateCode.Script.Condense

/-! A script as the joining pass reads it. The text is cut into tokens once; joining is then a fold
over the tokens that looks one push ahead, and the text of the joined tokens is what the pass
writes. -/

namespace TemplateCode.Script

/-- A literal push, the beginning of a push that turns out not to be literal, or any other
character. -/
inductive Token where
  | char (c : Char)
  | opening
  | push (content : List Char)
  deriving DecidableEq, Repr

def Token.text : Token → List Char
  | .char c => [c]
  | .opening => Push.opener
  | .push content => Push.opener ++ content ++ Literal.closer

def write (ts : List Token) : List Char := ts.flatMap Token.text

@[simp] theorem write_nil : write [] = [] := rfl

@[simp] theorem write_cons (t : Token) (ts : List Token) : write (t :: ts) = t.text ++ write ts := rfl

@[simp] theorem write_append (ts us : List Token) : write (ts ++ us) = write ts ++ write us :=
  List.flatMap_append

theorem write_map_char (text : List Char) : write (text.map .char) = text := by
  induction text with
  | nil => rfl
  | cons c text ih => rw [List.map_cons, write_cons, ih, Token.text, List.singleton_append]

theorem isPrefixOf?_eq_some_iff {α : Type} [BEq α] [LawfulBEq α] {word text rest : List α} :
    word.isPrefixOf? text = some rest ↔ text = word ++ rest := by
  induction word generalizing text with
  | nil => exact Option.some_inj
  | cons c word ih =>
    cases text with
    | nil => exact ⟨nofun, nofun⟩
    | cons d text =>
      show (if c == d then word.isPrefixOf? text else none) = some rest ↔ _
      split
      · next h =>
        rw [ih, ← beq_iff_eq.1 h, List.cons_append, List.cons_inj_right]
      · next h =>
        have hne : d ≠ c := fun he => h (beq_iff_eq.2 he.symm)
        simp [hne]

theorem isPrefixOf?_eq_none_iff {α : Type} [BEq α] [LawfulBEq α] {word text : List α} :
    word.isPrefixOf? text = none ↔ ¬ word <+: text := by
  rw [Option.eq_none_iff_forall_ne_some, List.IsPrefix, not_exists]
  exact forall_congr' fun rest => not_congr (isPrefixOf?_eq_some_iff.trans eq_comm)

def tokens (text : List Char) : List Token :=
  match text with
  | [] => []
  | c :: tail =>
    match _hopen : Push.opener.isPrefixOf? (c :: tail) with
    | none => .char c :: tokens tail
    | some body =>
      match _hlit : Literal.split? body with
      | none => .opening :: tokens body
      | some (content, rest) => .push content :: tokens rest
termination_by text.length
decreasing_by
  · simp
  · exact opener_rest_length _hopen
  · exact Nat.lt_trans (Literal.split?_rest_length _hlit) (opener_rest_length _hopen)

@[simp] theorem tokens_nil : tokens [] = [] := by rw [tokens]

theorem tokens_char {c : Char} {tail : List Char} (h : ¬ Push.opener <+: c :: tail) :
    tokens (c :: tail) = .char c :: tokens tail := by
  rw [tokens]
  split
  · rfl
  · next body hopen => exact absurd ⟨body, (isPrefixOf?_eq_some_iff.1 hopen).symm⟩ h

theorem tokens_opener (body : List Char) :
    tokens (Push.opener ++ body) = match Literal.split? body with
      | none => .opening :: tokens body
      | some (content, rest) => .push content :: tokens rest := by
  generalize htext : Push.opener ++ body = text
  cases text with
  | nil => simp [Push.opener] at htext
  | cons c tail =>
    have hbody : Push.opener.isPrefixOf? (c :: tail) = some body :=
      isPrefixOf?_eq_some_iff.2 htext.symm
    rw [tokens]
    split
    · next hopen => simp [hbody] at hopen
    · next body' hopen =>
      obtain rfl : body = body' := Option.some.inj (hbody.symm.trans hopen)
      split <;> simp_all

theorem tokens_push {x : List Char} (hx : Literal.Enclosed x) (rest : List Char) :
    tokens (Push.opener ++ (x ++ Literal.closer ++ rest)) = .push x :: tokens rest := by
  rw [tokens_opener, Literal.split?_eq_some_iff.2 ⟨hx, rfl⟩]

theorem tokens_newline (tail : List Char) : tokens ('\n' :: tail) = .char '\n' :: tokens tail := by
  apply tokens_char
  rintro ⟨rest, h⟩
  simp [Push.opener] at h

theorem write_tokens (text : List Char) : write (tokens text) = text := by
  fun_induction tokens text with
  | case1 => rfl
  | case2 c tail _ ih => rw [write_cons, ih, Token.text, List.singleton_append]
  | case3 c tail body hopen _ ih =>
    rw [write_cons, ih, Token.text, isPrefixOf?_eq_some_iff.1 hopen]
  | case4 c tail body hopen content rest hlit ih =>
    obtain ⟨_, hbody⟩ := Literal.split?_eq_some_iff.1 hlit
    rw [write_cons, ih, Token.text, isPrefixOf?_eq_some_iff.1 hopen, hbody]
    simp only [List.append_assoc]

def next? : List Token → Option (List Char × List Token)
  | .push content :: rest => some (content, rest)
  | .char '\n' :: rest => next? rest
  | _ => none

def neighbour? : List Token → Option (List Char × List Token)
  | .char '\n' :: rest => next? rest
  | _ => none

def takeOver (ts : List Token) : List Char × List Token := (neighbour? ts).getD ([], ts)

/-- Every push takes over its neighbour, which has taken over its own before. -/
def joinTokens : List Token → List Token
  | [] => []
  | .push x :: ts => .push (x ++ (takeOver (joinTokens ts)).1) :: (takeOver (joinTokens ts)).2
  | .char c :: ts => .char c :: joinTokens ts
  | .opening :: ts => .opening :: joinTokens ts

theorem joinTokens_append {ts : List Token} (h : ∀ x, .push x ∉ ts) (us : List Token) :
    joinTokens (ts ++ us) = ts ++ joinTokens us := by
  induction ts with
  | nil => rfl
  | cons t ts ih =>
    have hts := ih fun x hx => h x (List.mem_cons_of_mem t hx)
    cases t with
    | char | opening => rw [List.cons_append, joinTokens, hts, List.cons_append]
    | push x => exact absurd List.mem_cons_self (h x)

theorem next?_eq_some_iff {ts rest : List Token} {x : List Char} :
    next? ts = some (x, rest) ↔ ∃ n, ts = List.replicate n (.char '\n') ++ .push x :: rest := by
  constructor
  · intro h
    fun_induction next? ts with
    | case1 y us =>
      obtain ⟨rfl, rfl⟩ := Prod.mk.inj (Option.some.inj h)
      exact ⟨0, rfl⟩
    | case2 us ih =>
      obtain ⟨n, rfl⟩ := ih h
      exact ⟨n + 1, rfl⟩
    | case3 => simp at h
  · rintro ⟨n, rfl⟩
    induction n with
    | zero => rfl
    | succ n ih => exact ih

theorem neighbour?_eq_some_iff {ts rest : List Token} {x : List Char} :
    neighbour? ts = some (x, rest) ↔
      ∃ n, ts = List.replicate (n + 1) (.char '\n') ++ .push x :: rest := by
  constructor
  · intro h
    fun_cases neighbour? ts with
    | case1 us =>
      obtain ⟨n, rfl⟩ := next?_eq_some_iff.1 h
      exact ⟨n, rfl⟩
    | case2 => simp [neighbour?] at h
  · rintro ⟨n, rfl⟩
    exact next?_eq_some_iff.2 ⟨n, rfl⟩

theorem next?_joinTokens (ts : List Token) :
    next? (joinTokens ts) = (next? ts).map fun p =>
      (p.1 ++ (takeOver (joinTokens p.2)).1, (takeOver (joinTokens p.2)).2) := by
  fun_induction next? ts with
  | case1 => rfl
  | case2 us ih => exact ih
  | case3 ts hpush hbreak =>
    match ts with
    | [] | .opening :: _ => rfl
    | .push x :: us => exact (hpush x us rfl).elim
    | .char c :: us =>
      have hc : c ≠ '\n' := fun h => hbreak us (by rw [h])
      simp [joinTokens, next?, hc]

theorem neighbour?_joinTokens (ts : List Token) :
    neighbour? (joinTokens ts) = (neighbour? ts).map fun p =>
      (p.1 ++ (takeOver (joinTokens p.2)).1, (takeOver (joinTokens p.2)).2) := by
  match ts with
  | [] | .opening :: _ | .push _ :: _ => rfl
  | .char c :: us =>
    by_cases hc : c = '\n'
    · rw [hc]
      exact next?_joinTokens us
    · simp [joinTokens, neighbour?, hc]

theorem next?_tokens (text : List Char) :
    next? (tokens text) =
      ((Push.opener.isPrefixOf? (text.dropWhile (· == '\n'))).bind Literal.split?).map
        fun p => (p.1, tokens p.2) := by
  induction text with
  | nil => rw [tokens_nil]; rfl
  | cons c tail ih =>
    by_cases hc : c = '\n'
    · rw [hc, tokens_newline]
      exact ih
    · rw [List.dropWhile_cons_of_neg (by simpa using hc)]
      cases hopen : Push.opener.isPrefixOf? (c :: tail) with
      | none =>
        rw [tokens_char (isPrefixOf?_eq_none_iff.1 hopen)]
        simp [next?, hc]
      | some body =>
        rw [isPrefixOf?_eq_some_iff.1 hopen, tokens_opener, Option.bind_some]
        cases Literal.split? body <;> rfl

theorem neighbour?_tokens (text : List Char) :
    neighbour? (tokens text) = (following? text).map fun p => (p.1, tokens p.2) := by
  fun_cases following? text with
  | case1 rest =>
    rw [tokens_newline]
    exact next?_tokens rest
  | case2 text hne =>
    cases text with
    | nil => rw [tokens_nil]; rfl
    | cons c tail =>
      have hc : c ≠ '\n' := fun h => hne tail (by rw [h])
      by_cases hopen : Push.opener <+: c :: tail
      · obtain ⟨body, hbody⟩ := hopen
        rw [← hbody, tokens_opener]
        cases Literal.split? body <;> rfl
      · rw [tokens_char hopen]
        simp [neighbour?, hc]

theorem takeOver_of_following {text content rest : List Char}
    (h : following? text = some (content, rest)) :
    takeOver (joinTokens (tokens text)) =
      (content ++ (takeOver (joinTokens (tokens rest))).1,
        (takeOver (joinTokens (tokens rest))).2) := by
  rw [takeOver, neighbour?_joinTokens, neighbour?_tokens, h]
  rfl

theorem takeOver_of_not_following {text : List Char} (h : following? text = none) :
    takeOver (joinTokens (tokens text)) = ([], joinTokens (tokens text)) := by
  rw [takeOver, neighbour?_joinTokens, neighbour?_tokens, h]
  rfl

theorem absorb_eq_takeOver (out text : List Char) :
    (absorb out text).1 = (takeOver (joinTokens (tokens text))).1.reverse ++ out ∧
      joinTokens (tokens (absorb out text).2) = (takeOver (joinTokens (tokens text))).2 := by
  fun_induction absorb out text with
  | case1 out text content rest hfollow ih =>
    obtain ⟨hout, hrest⟩ := ih
    rw [hout, hrest, takeOver_of_following hfollow, List.reverse_append, List.append_assoc]
    exact ⟨rfl, rfl⟩
  | case2 out text hfollow =>
    rw [takeOver_of_not_following hfollow]
    exact ⟨rfl, rfl⟩

theorem joinFrom_eq_write (out text : List Char) :
    joinFrom out text = out.reverse ++ write (joinTokens (tokens text)) := by
  fun_induction joinFrom out text with
  | case1 out => simp [joinTokens]
  | case2 out c tail hopen ih =>
    rw [ih, tokens_char (isPrefixOf?_eq_none_iff.1 hopen)]
    simp [joinTokens, Token.text]
  | case3 out c tail body hopen hlit ih =>
    rw [ih, isPrefixOf?_eq_some_iff.1 hopen, tokens_opener, hlit]
    simp [joinTokens, Token.text]
  | case4 out c tail body hopen content rest hlit ih =>
    obtain ⟨hout, hrest⟩ :=
      absorb_eq_takeOver (content.reverse ++ (Push.opener.reverse ++ out)) rest
    rw [ih, hout, hrest, isPrefixOf?_eq_some_iff.1 hopen, tokens_opener, hlit]
    simp [joinTokens, Token.text]

theorem join_eq_write (text : List Char) : join text = write (joinTokens (tokens text)) := by
  rw [join, joinFrom_eq_write]
  rfl

end TemplateCode.Script
