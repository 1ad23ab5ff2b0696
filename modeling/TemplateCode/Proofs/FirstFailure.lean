import TemplateCode.Proofs.Compilation

/-! The failure that a run reports. All steps up to the first change outside stand in one list, each
with its own failure, if it has one; a run that gets no further reports the first of them. -/

namespace TemplateCode

variable {ε α β : Type}

theorem filterMap_toOption_of_mapM {xs : List (Except ε α)} {ys : List α}
    (h : xs.mapM id = .ok ys) : xs.filterMap Except.toOption = ys := by
  have hall := forall₂_of_mapM h
  clear h
  induction hall with
  | nil => rfl
  | @cons x y _ _ hx _ ih =>
    have hsome : x.toOption = some y := congrArg Except.toOption hx
    rw [List.filterMap_cons_some hsome, ih]

namespace Command

open TemplateCode.Files

variable (s : Sources) (a : Arguments)

def outCheck : Option Failure :=
  if a.out.isSome && 1 < a.inputs.length then
    some ⟨[], .plain "--out accepts a single input; use --outDir for several"⟩
  else none

def configStep : Except Failure Options :=
  match a.config with
  | none => .ok Options.default
  | some path => do
    let text ← attempt ("failed to read options: " ++ path.text) .disk (s.file [] path)
    attempt ("failed to parse options: " ++ path.text) .optionsText (Options.ofText text)

def sourceStep : Except Failure (Option String) :=
  match a.source with
  | none => .ok none
  | some path =>
    some <$> attempt ("failed to read template source: " ++ path.text) .disk
      (s.file a.config.toList path)

def stdinStep : Except Failure Input := do
  let text ← attempt "failed to read syntax tree from stdin" .disk (s.stdin a.optionFiles)
  return ⟨stdinName, none, ← decodeInput stdinName text⟩

def readSteps (earlier : List Path) : List Path → List (Except Failure Input)
  | [] => []
  | path :: rest => readInput s earlier path :: readSteps (earlier ++ [path]) rest

def inputSteps : List (Except Failure Input) :=
  if a.inputs.isEmpty then [stdinStep s a] else readSteps s a.optionFiles a.inputs

def outputCheck : Option Failure :=
  if a.outDir.isNone && a.out.isNone && 1 < a.inputs.length then
    some ⟨[], .plain "several inputs need --outDir"⟩
  else none

def runOptions (base : Options) (source : Option String) : Options :=
  { a.apply base with source := source.or (a.apply base).source }

/-- The failures of the steps of a run in their order: the check of the arguments, the options file,
the template, every input, the source of every input, and the check of the outputs. What a step
needs from an earlier one that fails does not matter. -/
def stepFailures : List (Option Failure) :=
  let o := runOptions a ((configStep s a).toOption.getD .default)
    ((sourceStep s a).toOption.getD none)
  let inputs := (inputSteps s a).filterMap Except.toOption
  [outCheck a, failure? (configStep s a), failure? (sourceStep s a)] ++
    (inputSteps s a).map failure? ++ inputs.map (fun input => failure? (sourceOf o input)) ++
    [outputCheck a]

def firstFailure : Option Failure := (stepFailures s a).findSome? id

theorem resolveOptions_eq :
    resolveOptions s a =
      (configStep s a >>= fun base => runOptions a base <$> sourceStep s a) := by
  have hconfig : resolveOptions s a = (configStep s a >>= fun base =>
      match a.source with
      | none => return a.apply base
      | some path => do
        let text ← attempt ("failed to read template source: " ++ path.text) .disk
          (s.file a.config.toList path)
        return { a.apply base with source := some text }) := by
    rw [resolveOptions, configStep]
    cases a.config with
    | none => rfl
    | some path => exact (bind_assoc _ _ _).symm
  rw [hconfig]
  refine congrArg (configStep s a >>= ·) (funext fun base => ?_)
  rw [sourceStep]
  cases a.source with
  | none => rfl
  | some path =>
    dsimp only
    cases s.file a.config.toList path with
    | error fault => rfl
    | ok text => rfl

theorem readEach_eq (earlier paths : List Path) :
    readEach s earlier paths = (readSteps s earlier paths).mapM id := by
  induction paths generalizing earlier with
  | nil => rfl
  | cons path paths ih =>
    rw [readEach, readSteps, List.mapM_cons, ih]
    rfl

theorem readInputs_eq : readInputs s a.optionFiles a.inputs = (inputSteps s a).mapM id := by
  rw [inputSteps]
  cases a.inputs with
  | nil =>
    have hone : [stdinStep s a].mapM id = (stdinStep s a >>= fun input => .ok [input]) := by
      rw [List.mapM_cons]
      rfl
    have hread : readInputs s a.optionFiles [] = (stdinStep s a >>= fun input => .ok [input]) := by
      rw [readInputs, stdinStep, bind_assoc]
      refine congrArg (_ >>= ·) (funext fun text => ?_)
      cases decodeInput stdinName text with
      | error failure => rfl
      | ok tree => rfl
    exact hread.trans hone.symm
  | cons path paths => exact readEach_eq s a.optionFiles (path :: paths)

theorem prepare_of_outCheck {failure : Failure} (h : outCheck a = some failure) :
    prepare s a = .error failure := by
  rw [outCheck] at h
  split at h
  · next hseveral =>
    rw [prepare, if_pos hseveral]
    cases h
    rfl
  · cases h

theorem prepare_eq (h : outCheck a = none) :
    prepare s a = (configStep s a >>= fun base => sourceStep s a >>= fun source =>
      (inputSteps s a).mapM id >>= fun inputs => .ok (inputs, runOptions a base source)) := by
  rw [outCheck] at h
  split at h
  · cases h
  · next hseveral =>
    rw [prepare, if_neg hseveral, resolveOptions_eq, readInputs_eq]
    cases configStep s a with
    | error failure => rfl
    | ok base =>
      cases sourceStep s a with
      | error failure => rfl
      | ok source => rfl

theorem failure?_outputActions {outputs : List Output}
    (h : outputs.length = a.inputPaths.length) :
    failure? (outputActions a outputs) = outputCheck a := by
  have hseveral : 1 < outputs.length ↔ 1 < a.inputs.length := by
    rw [h, Arguments.inputPaths]
    cases a.inputs with
    | nil => simp
    | cons path paths => simp
  rw [outputActions, outputCheck]
  cases a.outDir with
  | some directory => rfl
  | none =>
    cases a.out with
    | some path => rfl
    | none =>
      by_cases hmany : 1 < a.inputs.length
      · simp [hmany, hseveral.2 hmany, failure?]
      · simp [hmany, mt hseveral.1 hmany, failure?]

theorem failure?_compile (o : Options) (inputs : List Input) (traced : Bool) :
    failure? (compile inputs o traced).2 =
      (inputs.map fun input => failure? (sourceOf o input)).findSome? id := by
  rw [← failure?_mapM, compile_eq]
  cases inputs.mapM (sourceOf o) with
  | error failure => rfl
  | ok codes => rfl

theorem plan_of_prepare {inputs : List Input} {o : Options} (h : prepare s a = .ok (inputs, o)) :
    failure? (plan s a).2 = (failure? (compile inputs o a.trace).2).or (outputCheck a) := by
  rw [plan, h]
  dsimp only
  cases hcompiled : (compile inputs o a.trace).2 with
  | error failure => rfl
  | ok outputs =>
    have hlength : outputs.length = a.inputPaths.length := by
      rw [← (compiled_compile hcompiled).length_eq, ← path_prepare h, List.length_map]
    rw [← failure?_outputActions a hlength]
    change failure? (outputActions a outputs >>= fun actions => .ok (Plan.mk outputs actions)) =
      failure? (outputActions a outputs)
    cases outputActions a outputs with
    | error failure => rfl
    | ok actions => rfl

/-- A plan fails exactly if one of the steps does, and then with the failure of the first. -/
theorem failure?_plan : failure? (plan s a).2 = firstFailure s a := by
  rw [firstFailure, stepFailures]
  -- by the first step that fails; those after it are not looked at by either side
  cases hout : outCheck a with
  | some failure =>
    rw [plan, prepare_of_outCheck s a hout]
    rfl
  | none =>
    have hprepare := prepare_eq s a hout
    cases hconfig : configStep s a with
    | error failure =>
      rw [plan, hprepare, hconfig]
      rfl
    | ok base =>
      cases hsource : sourceStep s a with
      | error failure =>
        rw [plan, hprepare, hconfig, hsource]
        rfl
      | ok source =>
        have hreads := failure?_mapM id (inputSteps s a)
        rw [hconfig, hsource] at hprepare
        rw [List.findSome?_append, List.findSome?_append, List.findSome?_append]
        cases hinputs : (inputSteps s a).mapM id with
        | error failure =>
          rw [hinputs] at hprepare hreads
          have hfirst : ((inputSteps s a).map failure?).findSome? id = some failure := hreads.symm
          rw [plan, hprepare, hfirst]
          rfl
        | ok inputs =>
          rw [hinputs] at hprepare hreads
          have hnone : ((inputSteps s a).map failure?).findSome? id = none := hreads.symm
          have hcheck : [outputCheck a].findSome? id = outputCheck a := by
            cases outputCheck a <;> rfl
          rw [plan_of_prepare s a hprepare, failure?_compile, filterMap_toOption_of_mapM hinputs,
            hnone, hcheck]
          rfl

end Command

end TemplateCode
