import TemplateCode.Proofs.FirstFailure
import TemplateCode.Proofs.OnTheWay
import TemplateCode.Proofs.OutputFiles

/-! What a run leaves behind. A run that fails before it has a plan has changed nothing. The actions
of a plan serve the targets of the run: they write the targets and make directories on the way to
them, and they touch nothing else, also if one of them fails. -/

namespace TemplateCode.Command

open TemplateCode.Files

variable {a : Arguments} {w next : World} {action : Action}

def Action.Writes (disk : Disk) : Action → Place → Prop
  | .write path _, place => disk.LeadsTo path path.parts place
  | .makeDirectories _, _ | .print _, _ => False

def Action.Makes (disk : Disk) : Action → Place → Prop
  | .makeDirectories path, place => disk.directoryPlaces (path :: path.ancestors) place
  | .write .., _ | .print _, _ => False

theorem disk_send (w : World) (text : String) (device : Device) :
    (w.send text device).1.disk = w.disk := by
  cases device <;> rfl

theorem touches_write (w : World) (path : Path) (text : String) :
    Disk.Touches (w.disk.LeadsTo path path.parts) (fun _ => False) w.disk
      (w.write path text).1.disk := by
  rw [World.write]
  cases haim : w.disk.target path with
  | error fault => exact .refl _ _ w.disk
  | ok aim =>
    cases aim with
    | file place guard => exact Disk.touches_target haim (guard.fill text.toUTF8).1
    | device device =>
      dsimp only
      rw [disk_send]
      exact .refl _ _ w.disk

theorem touches_perform (w : World) (action : Action) :
    Disk.Touches (action.Writes w.disk) (action.Makes w.disk) w.disk (action.perform w).1.disk := by
  cases action with
  | makeDirectories path => exact Disk.touches_makeDirectories w.disk path
  | print text => exact .refl _ _ w.disk
  | write path text => exact touches_write w path text

theorem writes_eq {written : Place → Prop} {before after : Disk}
    (h : Disk.Extends written before after) (action : Action) :
    action.Writes after = action.Writes before := by
  funext place
  cases action with
  | write path text => simp only [Action.Writes, h.leadsTo_eq]
  | makeDirectories | print => rfl

theorem makes_eq {written : Place → Prop} {before after : Disk}
    (h : Disk.Extends written before after) (action : Action) :
    action.Makes after = action.Makes before := by
  funext place
  cases action with
  | makeDirectories path => simp only [Action.Makes, h.directoryPlaces_eq]
  | write | print => rfl

theorem touches_performAll (w : World) (actions : List Action) :
    Disk.Touches (fun place => ∃ action ∈ actions, action.Writes w.disk place)
      (fun place => ∃ action ∈ actions, action.Makes w.disk place) w.disk
      (performAll w actions).1.disk := by
  induction actions generalizing w with
  | nil => exact .refl _ _ w.disk
  | cons action actions ih =>
    have hfirst : Disk.Touches (fun place => ∃ one ∈ action :: actions, one.Writes w.disk place)
        (fun place => ∃ one ∈ action :: actions, one.Makes w.disk place) w.disk
        (action.perform w).1.disk :=
      (touches_perform w action).mono (fun _ h => ⟨action, List.mem_cons_self, h⟩)
        (fun _ h => ⟨action, List.mem_cons_self, h⟩)
    rw [performAll]
    split
    · next between hbetween =>
      rw [hbetween] at hfirst
      -- paths lead to the same places before and after the first action
      refine hfirst.trans ((ih between).mono ?_ ?_)
      · rintro place ⟨one, hone, hplace⟩
        rw [writes_eq hfirst.extends] at hplace
        exact ⟨one, List.mem_cons_of_mem action hone, hplace⟩
      · rintro place ⟨one, hone, hplace⟩
        rw [makes_eq hfirst.extends] at hplace
        exact ⟨one, List.mem_cons_of_mem action hone, hplace⟩
    · exact hfirst

def Action.Serves (targets : List Path) : Action → Prop
  | .write path _ => path ∈ targets
  | .makeDirectories path => ∃ target ∈ targets, path.OnTheWay target
  | .print _ => targets = []

theorem perform_eq_error {failure : Failure} (h : (action.perform w).2 = .error failure) :
    ∃ fault, failure = ⟨[action.context], .disk fault⟩ := by
  cases action with
  | print text => cases h
  | makeDirectories | write =>
    obtain ⟨fault, -, hfailure⟩ := attempt_eq_error_iff.1 h
    exact ⟨fault, hfailure⟩

theorem performAll_eq_error {actions : List Action} {failure : Failure}
    (h : (performAll w actions).2 = .error failure) :
    ∃ action ∈ actions, ∃ fault, failure = ⟨[action.context], .disk fault⟩ := by
  induction actions generalizing w with
  | nil => cases h
  | cons action actions ih =>
    rw [performAll] at h
    split at h
    · obtain ⟨one, hone, hfault⟩ := ih h
      exact ⟨one, List.mem_cons_of_mem action hone, hfault⟩
    · exact ⟨action, List.mem_cons_self, perform_eq_error h⟩

def Arguments.targets (a : Arguments) : List Path :=
  match a.outDir, a.out with
  | some directory, _ => a.inputPaths.map fun path => directory.join (outputFile path)
  | none, some path => [path]
  | none, none => []

theorem serves_writeActions {targets : List Path} {path : Path} {text : String}
    (hpath : path ∈ targets) (h : action ∈ writeActions path text) : action.Serves targets := by
  rw [writeActions] at h
  split at h
  · obtain rfl := List.mem_singleton.1 h
    exact hpath
  · obtain rfl := List.mem_singleton.1 h
    exact hpath
  · next parent hne hparent =>
    rcases List.mem_cons.1 h with rfl | h
    · exact ⟨path, hpath, Path.onTheWay_of_parent? hparent hne⟩
    · obtain rfl := List.mem_singleton.1 h
      exact hpath

theorem Arguments.inputPaths_ne_nil (a : Arguments) : a.inputPaths ≠ [] := by
  rw [inputPaths]
  cases a.inputs with
  | nil => exact List.cons_ne_nil none []
  | cons path paths => exact List.cons_ne_nil (some path) (paths.map some)

theorem serves_outputActions {outputs : List Output} {actions : List Action}
    (hpaths : outputs.map Output.path = a.inputPaths) (h : outputActions a outputs = .ok actions) :
    ∀ action ∈ actions, action.Serves a.targets := by
  intro action haction
  rw [outputActions] at h
  rw [Arguments.targets]
  cases hdirectory : a.outDir with
  | some directory =>
    rw [hdirectory] at h
    cases h
    have htarget : ∀ output ∈ outputs, directory.join output.fileName ∈
        a.inputPaths.map fun path => directory.join (outputFile path) := by
      intro output houtput
      rw [← hpaths, List.map_map]
      exact List.mem_map_of_mem (f := _ ∘ Output.path) houtput
    rcases List.mem_cons.1 haction with rfl | haction
    · obtain ⟨path, hpath⟩ := List.exists_mem_of_ne_nil _ a.inputPaths_ne_nil
      exact ⟨_, List.mem_map_of_mem hpath, directory.onTheWay_join (isName_outputFile path)⟩
    · obtain ⟨output, houtput, hwrite⟩ := List.mem_flatMap.1 haction
      exact serves_writeActions (htarget output houtput) hwrite
  | none =>
    rw [hdirectory] at h
    cases hout : a.out with
    | some path =>
      rw [hout] at h
      cases h
      obtain ⟨output, -, hwrite⟩ := List.mem_flatMap.1 haction
      exact serves_writeActions (List.mem_singleton_self path) hwrite
    | none =>
      rw [hout] at h
      dsimp only at h
      split at h
      · cases h
      · cases h
        obtain ⟨output, -, rfl⟩ := List.mem_map.1 haction
        rfl

def Arguments.Writes (a : Arguments) (disk : Disk) (place : Place) : Prop :=
  ∃ target ∈ a.targets, disk.LeadsTo target target.parts place

def Arguments.Passes (a : Arguments) (disk : Disk) (place : Place) : Prop :=
  ∃ target ∈ a.targets, ∃ front, target.Leading front ∧ disk.LeadsTo target front place

theorem Action.Serves.writes {disk : Disk} {place : Place} (h : action.Serves a.targets)
    (hplace : action.Writes disk place) : a.Writes disk place := by
  cases action with
  | write path text => exact ⟨path, h, hplace⟩
  | makeDirectories | print => cases hplace

theorem Action.Serves.makes {disk : Disk} {place : Place} (h : action.Serves a.targets)
    (hplace : action.Makes disk place) : a.Passes disk place := by
  cases action with
  | makeDirectories path =>
    obtain ⟨target, htarget, hway⟩ := h
    obtain ⟨directory, hdirectory, hlead⟩ := hplace
    have hdirectory : directory.OnTheWay target := by
      rcases List.mem_cons.1 hdirectory with rfl | hancestor
      · exact hway
      · exact hway.ancestor hancestor
    rw [hdirectory.leadsTo_eq] at hlead
    exact ⟨target, htarget, _, hdirectory.leading, hlead⟩
  | write | print => cases hplace

theorem serves_plan {s : Sources} {plan' : Plan} (h : (plan s a).2 = .ok plan') :
    ∀ action ∈ plan'.actions, action.Serves a.targets := by
  obtain ⟨inputs, o, hprepare, hcompiled, hactions⟩ := plan_eq_ok h
  refine serves_outputActions ?_ hactions
  rw [path_of_compiled hcompiled, path_prepare hprepare]

/-- A run in which some step up to the check of the outputs fails reports the first of these
failures and leaves the disk and the streams as they were. Any other run touches only its targets
and missing directories on the way to them, and fails only if an action for the targets fails. -/
theorem run_fails_first_or_touches_targets (a : Arguments) (disk : Disk) (stdin : Stdin) :
    match firstFailure ⟨disk.readText stdin, disk.stdinText stdin⟩ a with
    | some failure =>
      (run a disk stdin).result = .error failure ∧ (run a disk stdin).world = ⟨disk, "", ""⟩
    | none =>
      Disk.Touches (a.Writes disk) (a.Passes disk) disk (run a disk stdin).world.disk ∧
        ∀ failure, (run a disk stdin).result = .error failure →
          ∃ (action : Action) (fault : Fault), action.Serves a.targets ∧
            failure = ⟨[action.context], .disk fault⟩ := by
  have hplan := failure?_plan ⟨disk.readText stdin, disk.stdinText stdin⟩ a
  split
  · next failure hfirst =>
    rw [hfirst, failure?_eq_some_iff] at hplan
    exact run_of_plan_error hplan
  · next hfirst =>
    rw [hfirst, failure?_eq_none_iff] at hplan
    obtain ⟨plan', hok⟩ := hplan
    have hserves := serves_plan hok
    obtain ⟨hresult, hworld⟩ := run_of_plan_ok hok
    rw [hresult, hworld]
    have htouches := touches_performAll ⟨disk, "", ""⟩ plan'.actions
    refine ⟨htouches.mono ?_ ?_, fun failure hfailed => ?_⟩
    · rintro place ⟨action, haction, hplace⟩
      exact (hserves action haction).writes hplace
    · rintro place ⟨action, haction, hplace⟩
      exact (hserves action haction).makes hplace
    · have hactions : (performAll ⟨disk, "", ""⟩ plan'.actions).2 = .error failure := by
        cases hdone : (performAll ⟨disk, "", ""⟩ plan'.actions).2 with
        | ok done => simp [hdone, Except.map] at hfailed
        | error e => simpa [hdone, Except.map] using hfailed
      obtain ⟨action, haction, fault, hfailure⟩ := performAll_eq_error hactions
      exact ⟨action, fault, hserves action haction, hfailure⟩

end TemplateCode.Command
