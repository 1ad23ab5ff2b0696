import TemplateCode.Script.Lexical

/-! Condensing a script. Literal pushes that only newlines separate become one push, and every run
of newlines becomes a single newline. The pass sees characters only: a push counts as literal when
its argument is one complete literal. -/

namespace TemplateCode.Script

def following? (text : List Char) : Option (List Char × List Char) :=
  match text with
  | '\n' :: rest => (Push.opener.isPrefixOf? (rest.dropWhile (· == '\n'))).bind Literal.split?
  | _ => none

theorem isPrefixOf?_rest_length {word text rest : List Char}
    (h : word.isPrefixOf? text = some rest) : rest.length + word.length = text.length := by
  induction word generalizing text with
  | nil =>
    cases h
    rfl
  | cons c word ih =>
    cases text with
    | nil => cases h
    | cons d text =>
      change (if c == d then word.isPrefixOf? text else none) = some rest at h
      split at h
      · simp only [List.length_cons, ← ih h]
        omega
      · cases h

theorem opener_rest_length {text rest : List Char}
    (h : Push.opener.isPrefixOf? text = some rest) : rest.length < text.length := by
  have := isPrefixOf?_rest_length h
  simp only [Push.opener, List.length_cons, List.length_nil] at this
  omega

theorem following?_rest_length {text content rest : List Char}
    (h : following? text = some (content, rest)) : rest.length < text.length := by
  unfold following? at h
  split at h
  · rename_i tail
    obtain ⟨body, hbody, hsplit⟩ := Option.bind_eq_some_iff.1 h
    have h₁ := opener_rest_length hbody
    have h₂ := Literal.split?_rest_length hsplit
    have h₃ := (List.dropWhile_sublist (p := (· == '\n')) (l := tail)).length_le
    simp only [List.length_cons]
    omega
  · simp at h

/-- Takes in every literal push that follows, adding its content to `out`, latest first. -/
def absorb (out text : List Char) : List Char × List Char :=
  match _h : following? text with
  | some (content, rest) => absorb (content.reverse ++ out) rest
  | none => (out, text)
termination_by text.length
decreasing_by exact following?_rest_length _h

theorem absorb_rest_length (out text : List Char) :
    (absorb out text).2.length ≤ text.length := by
  fun_induction absorb out text with
  | case1 out text content rest h ih =>
    exact Nat.le_trans ih (Nat.le_of_lt (following?_rest_length h))
  | case2 => exact Nat.le_refl _

/-- Joins neighbouring literal pushes of `text`; `out` is what was written before, latest first. -/
def joinFrom (out text : List Char) : List Char :=
  match text with
  | [] => out.reverse
  | c :: tail =>
    match _hopen : Push.opener.isPrefixOf? (c :: tail) with
    | none => joinFrom (c :: out) tail
    | some body =>
      match _hlit : Literal.split? body with
      | none => joinFrom (Push.opener.reverse ++ out) body
      | some (content, rest) =>
        joinFrom
          (Literal.closer.reverse ++
            (absorb (content.reverse ++ (Push.opener.reverse ++ out)) rest).1)
          (absorb (content.reverse ++ (Push.opener.reverse ++ out)) rest).2
termination_by text.length
decreasing_by
  · simp
  · exact opener_rest_length _hopen
  · exact Nat.lt_of_le_of_lt (absorb_rest_length ..)
      (Nat.lt_trans (Literal.split?_rest_length _hlit) (opener_rest_length _hopen))

def join (text : List Char) : List Char := joinFrom [] text

def collapse (text : List Char) : List Char :=
  (text.foldl (fun out c => if c = '\n' ∧ out.head? = some '\n' then out else c :: out) []).reverse

def condense (source : String) : String :=
  String.ofList (collapse (join source.toList))

end TemplateCode.Script
