import Mathlib.Data.List.Forall2

/-! Steps that may fail, read by what their success says and by the failure that comes first. -/

namespace TemplateCode

variable {ε α β : Type}

@[simp] theorem bind_eq_ok_iff {x : Except ε α} {f : α → Except ε β} {b : β} :
    x >>= f = .ok b ↔ ∃ a, x = .ok a ∧ f a = .ok b := by
  cases x with
  | error e => exact ⟨nofun, nofun⟩
  | ok a =>
    constructor
    · intro h
      exact ⟨a, rfl, h⟩
    · rintro ⟨_, ⟨⟩, h⟩
      exact h

@[simp] theorem map_eq_ok_iff {x : Except ε α} {f : α → β} {b : β} :
    f <$> x = .ok b ↔ ∃ a, x = .ok a ∧ f a = b := by
  cases x with
  | error e => exact ⟨nofun, nofun⟩
  | ok a =>
    constructor
    · intro h
      exact ⟨a, rfl, Except.ok.inj h⟩
    · rintro ⟨_, ⟨⟩, rfl⟩
      rfl

@[simp] theorem pure_eq_ok_iff {a b : α} : (pure a : Except ε α) = .ok b ↔ a = b :=
  ⟨Except.ok.inj, congrArg _⟩

def failure? : Except ε α → Option ε
  | .ok _ => none
  | .error e => some e

theorem failure?_eq_some_iff {x : Except ε α} {e : ε} : failure? x = some e ↔ x = .error e := by
  cases x <;> simp [failure?]

theorem failure?_eq_none_iff {x : Except ε α} : failure? x = none ↔ ∃ a, x = .ok a := by
  cases x <;> simp [failure?]

theorem failure?_mapM (f : α → Except ε β) (xs : List α) :
    failure? (xs.mapM f) = (xs.map fun x => failure? (f x)).findSome? id := by
  induction xs with
  | nil => rfl
  | cons x xs ih =>
    rw [List.mapM_cons, List.map_cons, List.findSome?_cons]
    cases f x with
    | error e => rfl
    | ok y =>
      refine Eq.trans ?_ ih
      cases xs.mapM f with
      | error e => rfl
      | ok ys => rfl

@[simp] theorem failure?_map (f : α → β) (x : Except ε α) : failure? (f <$> x) = failure? x := by
  cases x <;> rfl

theorem mapM_cases (f : α → Except ε β) (xs : List α) :
    (∃ before x after e, xs = before ++ x :: after ∧ (∀ y ∈ before, ∃ b, f y = .ok b) ∧
      f x = .error e ∧ xs.mapM f = .error e) ∨
    ∃ ys, List.Forall₂ (fun x y => f x = .ok y) xs ys ∧ xs.mapM f = .ok ys := by
  induction xs with
  | nil => exact .inr ⟨[], .nil, rfl⟩
  | cons x xs ih =>
    rw [List.mapM_cons]
    cases hx : f x with
    | error e => exact .inl ⟨[], x, xs, e, rfl, nofun, hx, rfl⟩
    | ok y =>
      rcases ih with ⟨before, z, after, e, rfl, hbefore, hz, hfails⟩ | ⟨ys, hys, hsucceeds⟩
      · have hearlier : ∀ y ∈ x :: before, ∃ b, f y = .ok b :=
          List.forall_mem_cons.2 ⟨⟨y, hx⟩, hbefore⟩
        refine .inl ⟨x :: before, z, after, e, rfl, hearlier, hz, ?_⟩
        rw [hfails]
        rfl
      · refine .inr ⟨y :: ys, .cons hx hys, ?_⟩
        rw [hsucceeds]
        rfl

theorem forall₂_of_mapM {f : α → Except ε β} {xs : List α} {ys : List β} (h : xs.mapM f = .ok ys) :
    List.Forall₂ (fun x y => f x = .ok y) xs ys := by
  rcases mapM_cases f xs with ⟨_, _, _, _, -, -, -, hfails⟩ | ⟨zs, hzs, hsucceeds⟩
  · rw [hfails] at h
    cases h
  · rw [hsucceeds] at h
    cases h
    exact hzs

theorem exists_left_of_forall₂ {R : α → β → Prop} {xs : List α} {ys : List β}
    (h : List.Forall₂ R xs ys) {y : β} (hy : y ∈ ys) : ∃ x ∈ xs, R x y := by
  induction h with
  | nil => exact absurd hy List.not_mem_nil
  | @cons x _ xs _ hfirst _ ih =>
    rcases List.mem_cons.1 hy with rfl | hrest
    · exact ⟨x, List.mem_cons_self, hfirst⟩
    · obtain ⟨z, hz, hrel⟩ := ih hrest
      exact ⟨z, List.mem_cons_of_mem x hz, hrel⟩

theorem exists_right_of_forall₂ {R : α → β → Prop} {xs : List α} {ys : List β}
    (h : List.Forall₂ R xs ys) {x : α} (hx : x ∈ xs) : ∃ y ∈ ys, R x y :=
  exists_left_of_forall₂ (List.Forall₂.flip (R := flip R) h) hx

end TemplateCode
