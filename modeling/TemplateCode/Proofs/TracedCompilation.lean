import TemplateCode.Command.Compile
import TemplateCode.Proofs.Emission
import TemplateCode.Proofs.Outcome
import TemplateCode.Proofs.Skeleton
import TemplateCode.Proofs.Trail

/-! Compiling with and without trails. One way stops at the first tree that fails, the other makes
all of them first; both are one pass over the inputs that differs only in the trail it keeps. -/

namespace TemplateCode

variable {ε α β γ : Type}

theorem mapM_map_eq_zipWith (f : α → Except ε β) (g : α → β → γ) (xs : List α) :
    (xs.mapM fun x => g x <$> f x) = List.zipWith g xs <$> xs.mapM f := by
  induction xs with
  | nil => rfl
  | cons x xs ih =>
    rw [List.mapM_cons, List.mapM_cons, ih]
    cases f x with
    | error e => rfl
    | ok y =>
      cases xs.mapM f with
      | error e => rfl
      | ok ys => rfl

namespace Render

open TemplateCode.Tree

variable {σ : Type}

theorem map_fst_generateNoting (note : Note σ) (sink : σ) (o : Options) (tree : Node) :
    (generateNoting note sink o tree).map (·.1) = generate o tree := by
  have hbody : ((walkRoot o note tree).run ⟨0, sink⟩).1 = body o tree := by
    rw [← String.toList_inj, toList_body]
    exact walk_writes o note none tree ⟨0, sink⟩
  rw [generate_eq, generateNoting, ← hbody]
  cases o.validate with
  | error e => rfl
  | ok u => rfl

theorem generateNoting_eq (note : Note σ) (sink : σ) (o : Options) (tree : Node) :
    generateNoting note sink o tree =
      (generate o tree).map fun code => (code, (trail 0 tree).foldl note sink) := by
  have hwalk : ((walkRoot o note tree).run ⟨0, sink⟩).2 = ⟨0, (trail 0 tree).foldl note sink⟩ :=
    walk_notes o note none tree ⟨0, sink⟩
  rw [← map_fst_generateNoting note sink, generateNoting]
  cases o.validate with
  | error e => rfl
  | ok u =>
    show Except.ok (_, ((walkRoot o note tree).run ⟨0, sink⟩).2.sink) = _
    rw [hwalk]
    rfl

theorem generateTraced_eq (o : Options) (tree : Node) :
    generateTraced o tree = (generate o tree).map fun code => (code, trail 0 tree) := by
  have hrecorded : ((trail 0 tree).foldl record []).reverse = trail 0 tree := by
    have hsink : (trail 0 tree).foldl record [] = (trail 0 tree).reverse ++ [] :=
      List.foldl_flip_cons_eq_append'
    rw [hsink, List.append_nil, List.reverse_reverse]
  rw [generateTraced, generateNoting_eq]
  cases generate o tree with
  | error e => rfl
  | ok code => exact congrArg (fun events => Except.ok (code, events)) hrecorded

end Render

namespace Command

open TemplateCode.Tree

theorem attempt_eq_ok_iff {ε α : Type} {context : String} {cause : ε → Cause} {x : Except ε α}
    {a : α} : attempt context cause x = .ok a ↔ x = .ok a := by
  cases x <;> simp [attempt]

theorem attempt_eq_error_iff {ε α : Type} {context : String} {cause : ε → Cause} {x : Except ε α}
    {failure : Failure} :
    attempt context cause x = .error failure ↔
      ∃ e, x = .error e ∧ failure = ⟨[context], cause e⟩ := by
  cases x <;> simp [attempt, eq_comm]

variable (o : Options)

def sourceOf (input : Input) : Except Failure String :=
  inGeneration input (Render.generate o input.tree)

theorem compileTraced_eq (inputs : List Input) :
    (compileTraced o inputs).2 =
      inputs.mapM fun input => (input.output · (trail 0 input.tree)) <$> sourceOf o input := by
  induction inputs with
  | nil => rfl
  | cons input inputs ih =>
    rw [List.mapM_cons, ← ih, compileTraced, sourceOf, Render.generateTraced_eq]
    cases Render.generate o input.tree with
    | error e => rfl
    | ok code =>
      cases hrest : compileTraced o inputs with
      | mk records outputs => cases outputs <;> rfl

theorem snd_generateLogged (tree : Node) :
    (generateLogged o tree).2 = Render.generate o tree := by
  rw [generateLogged, Render.generateNoting_eq]
  cases Render.generate o tree with
  | error e => rfl
  | ok code => rfl

theorem compileAll_eq (inputs : List Input) :
    (compileAll o inputs).2 =
      inputs.mapM fun input => (input.output · []) <$> sourceOf o input := by
  induction inputs with
  | nil => rfl
  | cons input inputs ih =>
    have hcollect : (compileAll o (input :: inputs)).2 =
        (inGeneration input (generateLogged o input.tree).2 >>= fun code =>
          (compileAll o inputs).2 >>= fun outputs => .ok (input.output code [] :: outputs)) := rfl
    rw [List.mapM_cons, ← ih, hcollect, snd_generateLogged, sourceOf]
    cases inGeneration input (Render.generate o input.tree) with
    | error e => rfl
    | ok code => rfl

def keptTrail (traced : Bool) (tree : Node) : List Event := if traced then trail 0 tree else []

theorem compile_eq (inputs : List Input) (traced : Bool) :
    (compile inputs o traced).2 =
      List.zipWith (fun input code => input.output code (keptTrail traced input.tree)) inputs <$>
        inputs.mapM (sourceOf o) := by
  rw [← mapM_map_eq_zipWith]
  cases traced with
  | true => exact compileTraced_eq o inputs
  | false => exact compileAll_eq o inputs

theorem sourceOf_eq_ok_iff {input : Input} {code : String} :
    sourceOf o input = .ok code ↔ Render.generate o input.tree = .ok code := attempt_eq_ok_iff

theorem sourceOf_eq_error_iff {input : Input} {failure : Failure} :
    sourceOf o input = .error failure ↔ ∃ e, Render.generate o input.tree = .error e ∧
      failure = ⟨["failed to generate " ++ input.name], .options e⟩ := attempt_eq_error_iff

variable {o}

structure Compiled (o : Options) (input : Input) (output : Output) : Prop where
  name : output.name = input.name
  path : output.path = input.path
  code : Render.generate o input.tree = .ok output.code

theorem compiled_zipWith {inputs : List Input} {codes : List String} (trailOf : Input → List Event)
    (h : List.Forall₂ (fun input code => sourceOf o input = .ok code) inputs codes) :
    List.Forall₂ (fun input output => Compiled o input output ∧ output.trail = trailOf input) inputs
      (List.zipWith (fun input code => input.output code (trailOf input)) inputs codes) := by
  induction h with
  | nil => exact .nil
  | cons hsource _ ih => exact .cons ⟨⟨rfl, rfl, (sourceOf_eq_ok_iff o).1 hsource⟩, rfl⟩ ih

/-- With trails or without, compiling fails for the first input whose tree has no source, in the
same words; or it has an output for every input, in order, under the name and path of the input and
with the source of its tree. The trail is that of the tree if trails are asked for, and empty if
not. -/
theorem compile_traced_agrees (o : Options) (inputs : List Input) :
    (∃ before input after e, inputs = before ++ input :: after ∧
      (∀ earlier ∈ before, ∃ code, Render.generate o earlier.tree = .ok code) ∧
      Render.generate o input.tree = .error e ∧
      ∀ traced, (compile inputs o traced).2 =
        .error ⟨["failed to generate " ++ input.name], .options e⟩) ∨
    ∃ traced, (compile inputs o true).2 = .ok traced ∧
      List.Forall₂ (fun input output => output.name = input.name ∧ output.path = input.path ∧
        Render.generate o input.tree = .ok output.code ∧ output.trail = trail 0 input.tree)
        inputs traced ∧
      (compile inputs o false).2 = .ok (traced.map fun output => { output with trail := [] }) := by
  rcases mapM_cases (sourceOf o) inputs with
    ⟨before, input, after, failure, hinputs, hbefore, hinput, hfails⟩ | ⟨codes, hcodes, hsucceeds⟩
  · obtain ⟨e, hgenerate, rfl⟩ := (sourceOf_eq_error_iff o).1 hinput
    refine .inl ⟨before, input, after, e, hinputs, fun earlier hearlier => ?_, hgenerate,
      fun traced => ?_⟩
    · obtain ⟨code, hcode⟩ := hbefore earlier hearlier
      exact ⟨code, (sourceOf_eq_ok_iff o).1 hcode⟩
    · rw [compile_eq, hfails]
      rfl
  · have hcompile (traced : Bool) : (compile inputs o traced).2 = .ok
        (List.zipWith (fun input code => input.output code (keptTrail traced input.tree))
          inputs codes) := by
      rw [compile_eq, hsucceeds]
      rfl
    have hcompiled := compiled_zipWith (fun input => keptTrail true input.tree) hcodes
    refine .inr ⟨_, hcompile true, hcompiled.imp fun input output h => ?_, ?_⟩
    · exact ⟨h.1.name, h.1.path, h.1.code, h.2⟩
    · rw [hcompile false, List.map_zipWith]
      rfl

end Command

end TemplateCode
