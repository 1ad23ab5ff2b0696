import Mathlib.Data.List.Destutter
import TemplateCode.Script.Condense

/-! Shortening runs of newlines. The pass is `List.destutter` for the relation that forbids a second
newline; read from left to right it only has to know whether it stands after a newline, which is the
form that splits at an append. -/

namespace TemplateCode.Script

/-- The text without the newlines that directly follow another one; `broken` tells whether a newline
stands before it. -/
def squeeze (broken : Bool) : List Char → List Char
  | [] => []
  | c :: rest =>
    if broken && c == '\n' then squeeze true rest else c :: squeeze (c == '\n') rest

def ends (broken : Bool) : List Char → Bool
  | [] => broken
  | c :: rest => ends (c == '\n') rest

theorem squeeze_append (broken : Bool) (s t : List Char) :
    squeeze broken (s ++ t) = squeeze broken s ++ squeeze (ends broken s) t := by
  induction s generalizing broken with
  | nil => rfl
  | cons c s ih =>
    rw [List.cons_append, squeeze, squeeze, ends]
    split
    · next h =>
      have hc : (c == '\n') = true := (Bool.and_eq_true_iff.1 h).2
      rw [hc]
      exact ih true
    · rw [ih, List.cons_append]

theorem ends_append (broken : Bool) (s t : List Char) :
    ends broken (s ++ t) = ends (ends broken s) t := by
  induction s generalizing broken with
  | nil => rfl
  | cons c s ih => exact ih (c == '\n')

theorem ends_eq_true {s : List Char} (h : ends false s = true) : ∃ t, s = t ++ ['\n'] := by
  rcases List.eq_nil_or_concat s with rfl | ⟨t, c, rfl⟩
  · exact absurd h Bool.false_ne_true
  · rw [List.concat_eq_append, ends_append] at h
    obtain rfl : c = '\n' := beq_iff_eq.1 h
    exact ⟨t, List.concat_eq_append⟩

theorem squeeze_sublist (broken : Bool) (text : List Char) : (squeeze broken text).Sublist text := by
  induction text generalizing broken with
  | nil => exact .slnil
  | cons c text ih =>
    rw [squeeze]
    split
    · exact (ih true).cons c
    · exact (ih _).cons_cons c

theorem foldl_eq_squeeze (out text : List Char) :
    text.foldl (fun out c => if c = '\n' ∧ out.head? = some '\n' then out else c :: out) out =
      (squeeze (out.head? == some '\n') text).reverse ++ out := by
  induction text generalizing out with
  | nil => rfl
  | cons c text ih =>
    rw [List.foldl_cons, ih, squeeze]
    by_cases hc : c = '\n' <;> by_cases ho : out.head? = some '\n' <;> simp [hc, ho]

theorem collapse_eq_squeeze (text : List Char) : collapse text = squeeze false text := by
  rw [collapse, foldl_eq_squeeze]
  simp

def Single (a b : Char) : Prop := ¬ (a = '\n' ∧ b = '\n')

instance : DecidableRel Single := fun a b => inferInstanceAs (Decidable (¬ (a = '\n' ∧ b = '\n')))

theorem destutter'_eq_squeeze (a : Char) (text : List Char) :
    text.destutter' Single a = a :: squeeze (a == '\n') text := by
  induction text generalizing a with
  | nil => rfl
  | cons c text ih =>
    rw [List.destutter'_cons, squeeze, ih, ih]
    by_cases ha : a = '\n' <;> by_cases hc : c = '\n' <;> simp [Single, ha, hc]

theorem collapse_eq_destutter (text : List Char) : collapse text = text.destutter Single := by
  rw [collapse_eq_squeeze]
  cases text with
  | nil => rfl
  | cons c text =>
    rw [List.destutter_cons', destutter'_eq_squeeze]
    rfl

theorem squeeze_of_newline_notMem {text : List Char} (h : '\n' ∉ text) (broken : Bool) :
    squeeze broken text = text := by
  induction text generalizing broken with
  | nil => rfl
  | cons c text ih =>
    have hc : (c == '\n') = false := beq_false_of_ne fun e => h (e ▸ List.mem_cons_self)
    rw [squeeze, hc, Bool.and_false, if_neg Bool.false_ne_true,
      ih fun hm => h (List.mem_cons_of_mem c hm)]

theorem ends_of_newline_notMem {text : List Char} (h : '\n' ∉ text) (hne : text ≠ [])
    (broken : Bool) : ends broken text = false := by
  induction text generalizing broken with
  | nil => exact absurd rfl hne
  | cons c text ih =>
    have hc : (c == '\n') = false := beq_false_of_ne fun e => h (e ▸ List.mem_cons_self)
    rw [ends, hc]
    cases text with
    | nil => rfl
    | cons d text => exact ih (fun hm => h (List.mem_cons_of_mem c hm)) (List.cons_ne_nil d text) false

theorem squeeze_line {line : List Char} (h : '\n' ∉ line) (hne : line ≠ []) (broken : Bool)
    (rest : List Char) :
    squeeze broken (line ++ '\n' :: rest) = line ++ '\n' :: squeeze true rest := by
  rw [squeeze_append, squeeze_of_newline_notMem h, ends_of_newline_notMem h hne]
  rfl

end TemplateCode.Script
