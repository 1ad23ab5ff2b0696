import TemplateCode.Command.Run
import TemplateCode.Proofs.TracedCompilation

/-! From inputs to outputs. Whichever way a list is compiled, every output is for the input at its
position, and its source is that of the input's tree; a run that succeeds performs all its actions
for such outputs. -/

namespace TemplateCode.Command

open TemplateCode.Files

variable {o : Options} {inputs : List Input} {outputs : List Output}

theorem compiled_compile {traced : Bool} (h : (compile inputs o traced).2 = .ok outputs) :
    List.Forall₂ (Compiled o) inputs outputs := by
  rw [compile_eq] at h
  obtain ⟨codes, hcodes, rfl⟩ := map_eq_ok_iff.1 h
  have hcompiled :=
    compiled_zipWith (fun input => keptTrail traced input.tree) (forall₂_of_mapM hcodes)
  exact hcompiled.imp fun _ _ => And.left

theorem path_of_compiled (h : List.Forall₂ (Compiled o) inputs outputs) :
    outputs.map Output.path = inputs.map Input.path := by
  induction h with
  | nil => rfl
  | cons hcompiled _ ih => rw [List.map_cons, List.map_cons, hcompiled.path, ih]

def Arguments.inputPaths (a : Arguments) : List (Option Path) :=
  if a.inputs.isEmpty then [none] else a.inputs.map some

variable {s : Sources} {a : Arguments}

theorem path_readEach {earlier paths : List Path} (h : readEach s earlier paths = .ok inputs) :
    inputs.map Input.path = paths.map some := by
  induction paths generalizing earlier inputs with
  | nil =>
    cases h
    rfl
  | cons path paths ih =>
    obtain ⟨input, hinput, h⟩ := bind_eq_ok_iff.1 h
    obtain ⟨rest, hrest, h⟩ := bind_eq_ok_iff.1 h
    obtain ⟨text, -, htree⟩ := bind_eq_ok_iff.1 hinput
    obtain ⟨tree, -, hread⟩ := bind_eq_ok_iff.1 htree
    cases h
    cases hread
    rw [List.map_cons, List.map_cons, ih hrest]

theorem path_readInputs {earlier : List Path} (h : readInputs s earlier a.inputs = .ok inputs) :
    inputs.map Input.path = a.inputPaths := by
  rw [Arguments.inputPaths]
  cases hpaths : a.inputs with
  | nil =>
    rw [hpaths] at h
    obtain ⟨text, -, htree⟩ := bind_eq_ok_iff.1 h
    obtain ⟨tree, -, hread⟩ := bind_eq_ok_iff.1 htree
    cases hread
    rfl
  | cons path paths =>
    rw [hpaths] at h
    exact path_readEach h

theorem path_prepare (h : prepare s a = .ok (inputs, o)) :
    inputs.map Input.path = a.inputPaths := by
  rw [prepare] at h
  dsimp only at h
  split at h
  · cases h
  · obtain ⟨o', -, h⟩ := bind_eq_ok_iff.1 h
    obtain ⟨inputs', hinputs, h⟩ := bind_eq_ok_iff.1 h
    cases h
    exact path_readInputs hinputs

theorem plan_eq_ok {plan' : Plan} (h : (plan s a).2 = .ok plan') :
    ∃ inputs o, prepare s a = .ok (inputs, o) ∧ List.Forall₂ (Compiled o) inputs plan'.outputs ∧
      outputActions a plan'.outputs = .ok plan'.actions := by
  rw [plan] at h
  split at h
  · cases h
  · rename_i inputs o hprepare
    obtain ⟨outputs, houtputs, h⟩ := bind_eq_ok_iff.1 h
    obtain ⟨actions, hactions, h⟩ := bind_eq_ok_iff.1 h
    cases h
    exact ⟨inputs, o, hprepare, compiled_compile houtputs, hactions⟩

section Run

variable {disk : Disk} {stdin : Stdin}

theorem run_of_plan_error {failure : Failure}
    (h : (plan ⟨disk.readText stdin, disk.stdinText stdin⟩ a).2 = .error failure) :
    (run a disk stdin).result = .error failure ∧ (run a disk stdin).world = ⟨disk, "", ""⟩ := by
  rw [run]
  split
  · next hplan =>
    rw [hplan] at h
    cases h
    exact ⟨rfl, rfl⟩
  · next hplan =>
    rw [hplan] at h
    cases h

theorem run_of_plan_ok {plan' : Plan}
    (h : (plan ⟨disk.readText stdin, disk.stdinText stdin⟩ a).2 = .ok plan') :
    (run a disk stdin).result =
        (performAll ⟨disk, "", ""⟩ plan'.actions).2.map (fun _ => plan'.outputs) ∧
      (run a disk stdin).world = (performAll ⟨disk, "", ""⟩ plan'.actions).1 := by
  rw [run]
  split
  · next hplan =>
    rw [hplan] at h
    cases h
  · next hplan =>
    rw [hplan] at h
    cases h
    exact ⟨rfl, rfl⟩

/-- What a run that succeeds has done: it has compiled its inputs and performed every action. -/
theorem run_eq_ok (h : (run a disk stdin).result = .ok outputs) :
    ∃ inputs o actions, prepare ⟨disk.readText stdin, disk.stdinText stdin⟩ a = .ok (inputs, o) ∧
      List.Forall₂ (Compiled o) inputs outputs ∧ outputActions a outputs = .ok actions ∧
      performAll ⟨disk, "", ""⟩ actions = ((run a disk stdin).world, .ok ()) := by
  cases hplan : (plan ⟨disk.readText stdin, disk.stdinText stdin⟩ a).2 with
  | error failure =>
    rw [(run_of_plan_error hplan).1] at h
    cases h
  | ok plan' =>
    obtain ⟨hresult, hworld⟩ := run_of_plan_ok hplan
    obtain ⟨inputs, o, hprepare, hcompiled, hactions⟩ := plan_eq_ok hplan
    rw [hresult] at h
    obtain ⟨_, hdone, hsame⟩ := map_eq_ok_iff.1 h
    cases hsame
    exact ⟨inputs, o, _, hprepare, hcompiled, hactions, Prod.ext hworld.symm hdone⟩

end Run

end TemplateCode.Command
