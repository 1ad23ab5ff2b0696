import TemplateCode.Proofs.Compilation
import TemplateCode.Proofs.PlainNames

/-! The files of a run with an output directory. Each output has a file named for its input, and
outputs of one name share one file, which keeps the last of them. -/

namespace TemplateCode.Command

open TemplateCode.Files

theorem isName_outputFile (path : Option Path) : Path.IsName (outputFile path) := by
  have hlong : 3 ≤ (outputFile path).length := by
    rw [outputFile, String.length_append]
    exact Nat.le_add_left 3 _
  have hslash : '/' ∉ ((path.bind Path.stem?).getD "template").toList := by
    cases hstem : path.bind Path.stem? with
    | none => decide
    | some stem =>
      obtain ⟨_, -, hstem⟩ := Option.bind_eq_some_iff.1 hstem
      exact Path.noSlash_of_stem? hstem
  refine ⟨by simpa [outputFile] using hslash, ?_, ?_, ?_⟩ <;>
  · intro h
    rw [h] at hlong
    exact absurd hlong (by decide)

/-! What a run of actions does to the disk. -/

variable {w next : World}

theorem performAll_cons_eq_ok {action : Action} {actions : List Action}
    (h : performAll w (action :: actions) = (next, .ok ())) :
    ∃ between, action.perform w = (between, .ok ()) ∧
      performAll between actions = (next, .ok ()) := by
  rw [performAll] at h
  split at h
  · exact ⟨_, ‹_›, h⟩
  · rename_i hfailed
    exact absurd h (hfailed next)

theorem performAll_append_eq_ok {first second : List Action}
    (h : performAll w (first ++ second) = (next, .ok ())) :
    ∃ between, performAll w first = (between, .ok ()) ∧
      performAll between second = (next, .ok ()) := by
  induction first generalizing w with
  | nil => exact ⟨w, rfl, h⟩
  | cons action actions ih =>
    obtain ⟨between, haction, hrest⟩ := performAll_cons_eq_ok h
    obtain ⟨last, hactions, hsecond⟩ := ih hrest
    refine ⟨last, ?_, hsecond⟩
    rw [performAll, haction]
    exact hactions

theorem extends_makeDirectories {path : Path} {result : Except Failure Unit}
    (h : (Action.makeDirectories path).perform w = (next, result)) :
    Disk.Extends (fun _ => False) w.disk next.disk := by
  have hmade := (Disk.touches_makeDirectories w.disk path).extends
  cases h
  exact hmade

variable {directory : Path} {name text : String}

theorem holds_write {path : Path} {base : List String} (hname : Path.IsName name)
    (hplain : w.disk.Plain name) (hparts : path.parts = base ++ [name])
    (h : (Action.write path text).perform w = (next, .ok ())) :
    next.disk.Holds path text ∧ Disk.Extends (∃ outer, · = outer ++ [name]) w.disk next.disk := by
  have hperform : (Action.write path text).perform w = ((w.write path text).1,
      attempt (Action.write path text).context .disk (w.write path text).2) := rfl
  rw [hperform] at h
  obtain ⟨rfl, hdone⟩ := Prod.mk.inj h
  rw [attempt_eq_ok_iff] at hdone
  cases haim : w.disk.target path with
  | error fault => simp [World.write, haim] at hdone
  | ok aim =>
    obtain ⟨outer, guard, rfl⟩ := Disk.target_plain hname hplain hparts haim
    have hwrite : w.write path text =
        ({ w with disk := w.disk.put (outer ++ [name]) (.file guard (guard.fill text.toUTF8).1) },
          (guard.fill text.toUTF8).2) := by
      rw [World.write, haim]
      rfl
    rw [hwrite] at hdone ⊢
    rw [Guard.fill_of_ok hdone]
    exact Disk.holds_put hname hplain hparts haim text

theorem holds_writeActions {path : Path} {base : List String} (hname : Path.IsName name)
    (hplain : w.disk.Plain name) (hparts : path.parts = base ++ [name])
    (h : performAll w (writeActions path text) = (next, .ok ())) :
    next.disk.Holds path text ∧ Disk.Extends (∃ outer, · = outer ++ [name]) w.disk next.disk := by
  have hlast : ∀ {w}, w.disk.Plain name → performAll w [.write path text] = (next, .ok ()) →
      next.disk.Holds path text ∧
        Disk.Extends (∃ outer, · = outer ++ [name]) w.disk next.disk := by
    intro w hplain h
    obtain ⟨last, hwrite, hdone⟩ := performAll_cons_eq_ok h
    cases hdone
    exact holds_write hname hplain hparts hwrite
  rw [writeActions] at h
  split at h
  · exact hlast hplain h
  · exact hlast hplain h
  · obtain ⟨between, hmake, hrest⟩ := performAll_cons_eq_ok h
    have hmade := extends_makeDirectories hmake
    obtain ⟨hholds, hwritten⟩ := hlast (hplain.extends hmade) hrest
    exact ⟨hholds, (hmade.mono (fun _ => False.elim)).trans hwritten⟩

def lastNamed (outputs : List Output) (name : String) : Option Output :=
  outputs.reverse.find? (fun output => output.fileName = name)

theorem lastNamed_cons (output : Output) (outputs : List Output) (name : String) :
    lastNamed (output :: outputs) name =
      (lastNamed outputs name).or (if output.fileName = name then some output else none) := by
  rw [lastNamed, List.reverse_cons, List.find?_append, lastNamed]
  by_cases h : output.fileName = name <;> simp [h]

theorem lastNamed_eq_none_iff {outputs : List Output} {name : String} :
    lastNamed outputs name = none ↔ ∀ output ∈ outputs, output.fileName ≠ name := by
  simp [lastNamed]

theorem lastNamed_eq_some {outputs : List Output} {name : String} {last : Output}
    (h : lastNamed outputs name = some last) : last ∈ outputs ∧ last.fileName = name :=
  ⟨List.mem_reverse.1 (List.mem_of_find?_eq_some h), by simpa using List.find?_some h⟩

def outputWrites (directory : Path) (outputs : List Output) : List Action :=
  outputs.flatMap (fun output => writeActions (directory.join output.fileName) output.code)

theorem holds_outputWrites {outputs : List Output}
    (hplain : ∀ output ∈ outputs, w.disk.Plain output.fileName)
    (h : performAll w (outputWrites directory outputs) = (next, .ok ())) :
    (∀ name last, lastNamed outputs name = some last →
      next.disk.Holds (directory.join name) last.code) ∧
      Disk.Extends (fun place => ∃ output ∈ outputs, ∃ outer, place = outer ++ [output.fileName])
        w.disk next.disk := by
  induction outputs generalizing w with
  | nil =>
    cases h
    exact ⟨nofun, .refl _ _⟩
  | cons output outputs ih =>
    obtain ⟨between, hfirst, hrest⟩ := performAll_append_eq_ok h
    have hname := isName_outputFile output.path
    obtain ⟨base, hparts⟩ := directory.exists_parts_join hname.noSlash
    obtain ⟨hholds, hwritten⟩ :=
      holds_writeActions hname (hplain output List.mem_cons_self) hparts hfirst
    have hplain' : ∀ other ∈ outputs, between.disk.Plain other.fileName :=
      fun other hother => (hplain other (List.mem_cons_of_mem _ hother)).extends hwritten
    obtain ⟨hlast, hextends⟩ := ih hplain' hrest
    refine ⟨fun name last hnamed => ?_, ?_⟩
    · rw [lastNamed_cons] at hnamed
      cases hlater : lastNamed outputs name with
      | some later =>
        rw [hlater] at hnamed
        cases hnamed
        exact hlast name last hlater
      | none =>
        -- no later output has this name, so nothing after the first write touches its file
        rw [hlater, Option.none_or] at hnamed
        obtain ⟨rfl, hsame⟩ := Option.ite_none_right_eq_some.1 hnamed
        cases hsame
        refine hholds.extends hname ((hplain output List.mem_cons_self).extends hwritten) hparts
          hextends ?_
        rintro outer ⟨other, hother, outer', hplace⟩
        have hnames : output.fileName = other.fileName :=
          (List.append_inj' hplace rfl).2 |> List.cons.inj |>.1
        exact lastNamed_eq_none_iff.1 hlater other hother hnames.symm
    · refine (hwritten.mono ?_).trans (hextends.mono ?_)
      · rintro place ⟨outer, hplace⟩
        exact ⟨output, List.mem_cons_self, outer, hplace⟩
      · rintro place ⟨other, hother, hplace⟩
        exact ⟨other, List.mem_cons_of_mem _ hother, hplace⟩

theorem outputActions_outDir {a : Arguments} {outputs : List Output} {actions : List Action}
    (hdirectory : a.outDir = some directory) (h : outputActions a outputs = .ok actions) :
    actions = .makeDirectories directory :: outputWrites directory outputs := by
  rw [outputActions, hdirectory] at h
  exact (Except.ok.inj h).symm

variable {a : Arguments} {disk : Disk} {stdin : Stdin} {outputs : List Output}

theorem holds_lastNamed (hdirectory : a.outDir = some directory)
    (hrun : (run a disk stdin).result = .ok outputs)
    (hnames : ∀ output ∈ outputs, output.fileName ∉ disk.specialNames) {name : String}
    {last : Output} (hlast : lastNamed outputs name = some last) :
    (run a disk stdin).world.disk.Holds (directory.join name) last.code := by
  obtain ⟨inputs, o, actions, -, -, hactions, hperformed⟩ := run_eq_ok hrun
  rw [outputActions_outDir hdirectory hactions] at hperformed
  obtain ⟨between, hmake, hwrites⟩ := performAll_cons_eq_ok hperformed
  have hplain : ∀ output ∈ outputs, between.disk.Plain output.fileName :=
    fun output houtput =>
      (Disk.plain_of_not_mem (hnames output houtput)).extends (extends_makeDirectories hmake)
  exact (holds_outputWrites hplain hwrites).1 name last hlast

/-- A run with an output directory has an output for every input, in order, and afterwards the file
of each name in the directory holds the last output with that name. So every output is there
afterwards exactly if outputs of one name are the same. -/
theorem run_outDir_files (hdirectory : a.outDir = some directory)
    (hrun : (run a disk stdin).result = .ok outputs)
    (hnames : ∀ output ∈ outputs, output.fileName ∉ disk.specialNames) :
    (∃ inputs o, prepare ⟨disk.readText stdin, disk.stdinText stdin⟩ a = .ok (inputs, o) ∧
      inputs.map Input.path = a.inputPaths ∧ List.Forall₂ (Compiled o) inputs outputs) ∧
    (∀ name last, lastNamed outputs name = some last →
      (run a disk stdin).world.disk.Holds (directory.join name) last.code) ∧
    ((∀ output ∈ outputs,
        (run a disk stdin).world.disk.Holds (directory.join output.fileName) output.code) ↔
      ∀ one ∈ outputs, ∀ other ∈ outputs,
        one.fileName = other.fileName → one.code = other.code) := by
  obtain ⟨inputs, o, _, hprepare, hcompiled, -⟩ := run_eq_ok hrun
  refine ⟨⟨inputs, o, hprepare, path_prepare hprepare, hcompiled⟩,
    fun name last => holds_lastNamed hdirectory hrun hnames, ?_, ?_⟩
  · intro hall one hone other hother hname
    have hsame := hall other hother
    rw [← hname] at hsame
    exact (hall one hone).text_eq hsame
  · intro hsame output houtput
    obtain ⟨last, hlast⟩ : ∃ last, lastNamed outputs output.fileName = some last := by
      refine Option.ne_none_iff_exists'.1 (fun hnone => ?_)
      exact lastNamed_eq_none_iff.1 hnone output houtput rfl
    obtain ⟨hmem, hname⟩ := lastNamed_eq_some hlast
    rw [hsame output houtput last hmem hname.symm]
    exact holds_lastNamed hdirectory hrun hnames hlast

def namesakes : Disk where
  root := .directory .free
    [("x", .directory .free
        [("p.json", .file .free r#"{"type":"VashText","value":"one"}"#.toUTF8)]),
      ("y", .directory .free
        [("p.json", .file .free r#"{"type":"VashText","value":"two"}"#.toUTF8)]),
      ("dev", .directory .free [("null", .device .free .null)])]
  current := []

def namesakeArguments : Arguments where
  inputs := [⟨"x/p.json"⟩, ⟨"y/p.json"⟩]
  out := none
  outDir := some ⟨"o"⟩
  config := none
  source := none
  helpersName := none
  modelName := none
  debug := false
  useWith := false
  asHelper := false
  simple := true
  noHtmlEscape := false
  trace := false

def namesake (name text : String) : Output where
  name := name
  path := some ⟨name⟩
  code := "var __vbuffer = html.buffer; \nhtml.options = __vopts; \n" ++
    "model = model || {}; \n" ++ text ++ "return html.buffer.join(\"\"); \n"
  trail := []

def firstNamesake : Output := namesake "x/p.json" "one"

def secondNamesake : Output := namesake "y/p.json" "two"

theorem result_namesakes :
    (run namesakeArguments namesakes (.pipe .empty)).result =
      .ok [firstNamesake, secondNamesake] := by
  have hoption : (run namesakeArguments namesakes (.pipe .empty)).result.toOption =
      some [firstNamesake, secondNamesake] := by decide +kernel
  cases hresult : (run namesakeArguments namesakes (.pipe .empty)).result with
  | error failure => simp [hresult, Except.toOption] at hoption
  | ok outputs => simpa [hresult, Except.toOption] using hoption

theorem fileName_namesakes : ∀ output ∈ [firstNamesake, secondNamesake],
    output.fileName = "p.js" := by decide +kernel

theorem lastNamed_namesakes :
    lastNamed [firstNamesake, secondNamesake] "p.js" = some secondNamesake := by
  simp [lastNamed, fileName_namesakes]

theorem specialNames_namesakes : ∀ output ∈ [firstNamesake, secondNamesake],
    output.fileName ∉ namesakes.specialNames := by
  have hnames : namesakes.specialNames = ["null"] := by
    simp [namesakes, Disk.specialNames, Entry.specialNames, Entry.specialNamesIn]
  intro output houtput
  rw [fileName_namesakes output houtput, hnames]
  decide

theorem run_outDir_files_namesakes :
    (run namesakeArguments namesakes (.pipe .empty)).result = .ok [firstNamesake, secondNamesake] ∧
      (run namesakeArguments namesakes (.pipe .empty)).world.disk.Holds (Path.join ⟨"o"⟩ "p.js")
        secondNamesake.code := by
  obtain ⟨-, hlast, -⟩ := run_outDir_files rfl result_namesakes specialNames_namesakes
  exact ⟨result_namesakes, hlast "p.js" secondNamesake lastNamed_namesakes⟩

/-- The first of two inputs with one name has no file of its own, although the run succeeds. -/
theorem run_outDir_loses_namesake :
    (run namesakeArguments namesakes (.pipe .empty)).result = .ok [firstNamesake, secondNamesake] ∧
      ¬ (run namesakeArguments namesakes (.pipe .empty)).world.disk.Holds
        (Path.join ⟨"o"⟩ firstNamesake.fileName) firstNamesake.code := by
  refine ⟨result_namesakes, fun hfirst => ?_⟩
  rw [fileName_namesakes _ List.mem_cons_self] at hfirst
  have hsecond := holds_lastNamed rfl result_namesakes specialNames_namesakes lastNamed_namesakes
  exact absurd (hfirst.text_eq hsecond) (by decide)

end TemplateCode.Command
