import TemplateCode.Proofs.Touched

/-! Files by their own names. Where no link and no device has the name at the end of a path, the
path leads to a file of that name, and writing elsewhere does not touch it. -/

namespace TemplateCode.Files

namespace Path

structure IsName (part : String) : Prop where
  noSlash : '/' ∉ part.toList
  ne_empty : part ≠ ""
  ne_dot : part ≠ "."
  ne_dots : part ≠ ".."

theorem not_mem_splitOn (chars piece : List Char) (h : piece ∈ chars.splitOn '/') :
    '/' ∉ piece := by
  induction chars generalizing piece with
  | nil => simp_all
  | cons c chars ih =>
    rw [List.splitOn_cons_eq_if_modifyHead] at h
    split at h
    · rcases List.mem_cons.1 h with rfl | h
      · simp
      · exact ih piece h
    · rename_i hc
      obtain ⟨first, pieces, hpieces⟩ :=
        List.exists_cons_of_ne_nil (List.splitOn_ne_nil '/' chars)
      rw [hpieces, List.modifyHead_cons] at h
      rw [hpieces] at ih
      rcases List.mem_cons.1 h with rfl | h
      · have hne : '/' ≠ c := by
          rintro rfl
          exact hc rfl
        simp [hne, ih first List.mem_cons_self]
      · exact ih piece (List.mem_cons_of_mem _ h)

theorem noSlash_of_mem_parts {path : Path} {part : String} (h : part ∈ path.parts) :
    '/' ∉ part.toList := by
  obtain ⟨piece, hpiece, rfl⟩ := List.mem_map.1 h
  rw [String.toList_ofList]
  exact not_mem_splitOn _ piece hpiece

theorem mem_of_mem_trimEnd {parts : List String} {part : String} (h : part ∈ trimEnd parts) :
    part ∈ parts := by
  fun_induction trimEnd parts with
  | case1 => exact h
  | case2 => exact h
  | case3 first rest _ hskip ih => exact List.mem_cons_of_mem _ (ih h)
  | case4 => exact h

theorem noSlash_of_fileName? {path : Path} {name : String} (h : path.fileName? = some name) :
    '/' ∉ name.toList := by
  rw [fileName?] at h
  split at h
  · cases h
  · rename_i part rest hparts
    split at h
    · cases h
    · cases h
      have hpart : name ∈ trimEnd path.parts.reverse := by simp [hparts]
      exact noSlash_of_mem_parts (List.mem_reverse.1 (mem_of_mem_trimEnd hpart))

theorem noSlash_of_stem? {path : Path} {stem : String} (h : path.stem? = some stem) :
    '/' ∉ stem.toList := by
  obtain ⟨name, hname, rfl⟩ := Option.map_eq_some_iff.1 h
  have hslash := noSlash_of_fileName? hname
  split
  · exact hslash
  · exact hslash
  · rename_i dot before _ hbefore
    have hsub : ∀ c ∈ before, c ∈ name.toList := by
      intro c hc
      have hdrop := (List.dropWhile_suffix (l := name.toList.reverse) (· != '.')).subset
      rw [hbefore] at hdrop
      exact List.mem_reverse.1 (hdrop (List.mem_cons_of_mem _ hc))
    simpa using fun hc => hslash (hsub _ hc)

theorem parts_join (directory : Path) {name : String} (h : '/' ∉ name.toList) :
    ∃ base, (directory.join name).parts = base ++ [name] ∧
      (directory.parts = base ∨ directory.parts = base ++ [""]) := by
  have hname : name.toList.splitOn '/' = [name.toList] := List.splitOn_eq_singleton h
  have hslash : ∀ front : List Char,
      ((front ++ '/' :: name.toList).splitOn '/').map String.ofList =
        (front.splitOn '/').map String.ofList ++ [name] := by
    intro front
    rw [List.splitOn_append_cons_self, hname, List.map_append]
    simp
  rw [join]
  split
  · rename_i hend
    rcases List.eq_nil_or_concat directory.text.toList with hnil | ⟨front, last, hlast⟩
    · refine ⟨[], ?_, .inr ?_⟩
      · simp [parts, hnil, hname]
      · simp [parts, hnil]
    · have hsep : last = '/' := by
        simpa [String.isEmpty_iff, ← String.toList_eq_nil_iff, hlast] using hend
      refine ⟨(front.splitOn '/').map String.ofList, ?_, .inr ?_⟩
      · rw [parts, String.toList_append, hlast, hsep]
        simpa using hslash front
      · rw [parts, hlast, hsep, List.concat_eq_append, List.splitOn_append_cons_self,
          List.map_append]
        rfl
  · refine ⟨directory.parts, ?_, .inl rfl⟩
    rw [parts, String.toList_append, String.toList_append]
    simpa [parts] using hslash directory.text.toList

theorem exists_parts_join (directory : Path) {name : String} (h : '/' ∉ name.toList) :
    ∃ base, (directory.join name).parts = base ++ [name] := by
  obtain ⟨base, hbase, -⟩ := directory.parts_join h
  exact ⟨base, hbase⟩

end Path

namespace Entry

mutual

def specialNames (name : String) : Entry → List String
  | .link _ | .device .. => [name]
  | .directory _ inside => specialNamesIn inside
  | .file .. => []

def specialNamesIn : List (String × Entry) → List String
  | [] => []
  | (name, entry) :: rest => entry.specialNames name ++ specialNamesIn rest

end

theorem specialNames_subset {inside : List (String × Entry)} {name : String} {entry : Entry}
    (h : inside.lookup name = some entry) : entry.specialNames name ⊆ specialNamesIn inside := by
  obtain ⟨front, back, rfl, -⟩ := List.lookup_eq_some_iff.1 h
  clear h
  induction front with
  | nil => exact List.subset_append_left _ _
  | cons step front ih => exact List.Subset.trans ih (List.subset_append_right _ _)

theorem mem_specialNames {entry found : Entry} {place : Place}
    (h : entry.find? place = some found) (name : String)
    (hfound : ∀ own, own ∈ found.specialNames own) :
    place.getLastD name ∈ entry.specialNames name := by
  induction place generalizing entry name with
  | nil =>
    obtain rfl : entry = found := by simpa [find?] using h
    exact hfound name
  | cons first place ih =>
    obtain ⟨child, hchild, hrest⟩ := Option.bind_eq_some_iff.1 h
    obtain ⟨_, inside, rfl, hlookup⟩ := directory_of_child? hchild
    rw [List.getLastD_cons, specialNames]
    exact specialNames_subset hlookup (ih hrest first)

end Entry

theorem Guard.fill_of_ok {guard : Guard} {bytes : ByteArray} (h : (guard.fill bytes).2 = .ok ()) :
    (guard.fill bytes).1 = bytes := by
  rw [fill] at h ⊢
  split at h
  · rfl
  · split at h
    · next hfits => rw [if_pos hfits]
    · cases h

namespace Disk

def specialNames (disk : Disk) : List String := disk.root.specialNames ""

variable {disk before after : Disk} {path : Path} {name : String} {base : List String}

/-- Whatever has this name is a file or a directory. -/
def Plain (disk : Disk) (name : String) : Prop :=
  ∀ place entry, disk.face? (place ++ [name]) = some entry →
    (∃ guard content, entry = .file guard content) ∨ ∃ guard, entry = .directory guard []

theorem plain_of_not_mem (h : name ∉ disk.specialNames) : disk.Plain name := by
  intro place entry hentry
  obtain ⟨found, hfound, rfl⟩ := Option.map_eq_some_iff.1 hentry
  have hspecial : ¬ ∀ own, own ∈ found.specialNames own := by
    intro hown
    have hmem := Entry.mem_specialNames hfound "" hown
    rw [List.getLastD_concat] at hmem
    exact h hmem
  cases found with
  | file guard content => exact .inl ⟨guard, content, rfl⟩
  | directory guard inside => exact .inr ⟨guard, rfl⟩
  | device | link => exact absurd (fun own => List.mem_singleton_self own) hspecial

theorem Plain.extends {written : Place → Prop} (hplain : before.Plain name)
    (h : Extends written before after) : after.Plain name := by
  intro place entry hentry
  rcases h.added (place ++ [name]) entry hentry with hbefore | ⟨outer, rfl⟩ | ⟨-, hfile⟩
  · exact hplain place entry hbefore
  · exact .inr ⟨outer.inherited, rfl⟩
  · exact .inl hfile

theorem Plain.turn (hname : Path.IsName name) (hplain : disk.Plain name) (outer : Place) :
    disk.turn outer name = .step (outer ++ [name]) := by
  have hlink : disk.link? (outer ++ [name]) = none := by
    refine Option.eq_none_iff_forall_ne_some.2 (fun target htarget => ?_)
    rcases hplain outer _ (link?_eq_some_iff.1 htarget) with ⟨_, _, h⟩ | ⟨_, h⟩ <;> cases h
  simp [Disk.turn, hname.ne_empty, hname.ne_dot, hname.ne_dots, hlink]

/-- A path with a plain name at its end leads to a place of that name in a directory. -/
theorem resolve_plain {toFile : Bool} {place : Place} (hname : Path.IsName name)
    (hplain : disk.Plain name) (h : disk.resolve toFile path (base ++ [name]) = .ok place) :
    ∃ outer guard, disk.face? outer = some (.directory guard []) ∧ place = outer ++ [name] := by
  obtain ⟨_, -, hwalk⟩ := bind_eq_ok_iff.1 h
  -- links on the way put their parts in front, so the name stays at the end
  have key : (base ++ [name] = [] → place = disk.start path) ∧
      ∀ front, base ++ [name] = front ++ [name] →
        ∃ outer guard, disk.face? outer = some (.directory guard []) ∧ place = outer ++ [name] := by
    refine walk_induction (motive := fun start parts last => (parts = [] → last = start) ∧
      ∀ front, parts = front ++ [name] → ∃ outer guard,
        disk.face? outer = some (.directory guard []) ∧ last = outer ++ [name])
      ?_ ?_ ?_ hwalk
    · exact fun start => ⟨fun _ => rfl, fun front hnil => by simp at hnil⟩
    · intro start next last part rest isSlashed henter ih
      refine ⟨nofun, fun front hparts => ?_⟩
      cases front with
      | nil =>
        cases hparts
        obtain ⟨guard, hstart, -, hturn⟩ := enter_eq_ok_iff.1 henter
        rw [hplain.turn hname] at hturn
        cases hturn
        exact ⟨start, guard, hstart, ih.1 rfl⟩
      | cons first front =>
        cases hparts
        exact ih.2 front rfl
    · intro start linked last part parts rest isSlashed henter ih
      refine ⟨nofun, fun front hparts => ?_⟩
      cases front with
      | nil =>
        cases hparts
        obtain ⟨guard, hstart, -, hturn⟩ := enter_eq_ok_iff.1 henter
        rw [hplain.turn hname] at hturn
        cases hturn
      | cons first front =>
        cases hparts
        exact ih.2 (parts ++ front) (List.append_assoc _ _ _).symm
  exact key.2 base rfl

theorem Plain.file_or_directory (hplain : disk.Plain name) {outer : Place} {entry : Entry}
    (h : disk.find? (outer ++ [name]) = some entry) :
    (∃ guard content, entry = .file guard content) ∨
      ∃ guard inside, entry = .directory guard inside := by
  have hface : disk.face? (outer ++ [name]) = some entry.face := by rw [face?, h, Option.map_some]
  rcases hplain outer _ hface with ⟨_, _, h⟩ | ⟨_, h⟩
  all_goals cases entry <;> simp_all [Entry.face]

theorem target_plain {aim : Target} (hname : Path.IsName name) (hplain : disk.Plain name)
    (hparts : path.parts = base ++ [name]) (h : disk.target path = .ok aim) :
    ∃ outer guard, aim = .file (outer ++ [name]) guard := by
  obtain ⟨place, hplace, h⟩ := bind_eq_ok_iff.1 h
  obtain ⟨outer, _, -, rfl⟩ := resolve_plain hname hplain (hparts ▸ hplace)
  cases hfound : disk.find? (outer ++ [name]) with
  | none =>
    rw [hfound] at h
    obtain ⟨guard, -, h⟩ := bind_eq_ok_iff.1 h
    exact ⟨outer, guard, (Except.ok.inj h).symm⟩
  | some entry =>
    rw [hfound] at h
    rcases hplain.file_or_directory hfound with ⟨guard, content, rfl⟩ | ⟨_, _, rfl⟩
    · obtain ⟨_, -, h⟩ := bind_eq_ok_iff.1 h
      exact ⟨outer, guard, (Except.ok.inj h).symm⟩
    · cases h

def Holds (disk : Disk) (path : Path) (text : String) : Prop :=
  ∃ guard, disk.lookUp path = .ok (some (.file guard text.toUTF8))

theorem Holds.text_eq {first second : String} (h₁ : disk.Holds path first)
    (h₂ : disk.Holds path second) : first = second := by
  obtain ⟨_, hfirst⟩ := h₁
  obtain ⟨_, hsecond⟩ := h₂
  have hfile := Except.ok.inj (hfirst.symm.trans hsecond)
  exact String.toByteArray_inj.1 (Entry.file.inj (Option.some.inj hfile)).2

theorem Holds.extends {written : Place → Prop} {text : String} (hname : Path.IsName name)
    (hplain : before.Plain name) (hparts : path.parts = base ++ [name])
    (hholds : before.Holds path text) (h : Extends written before after)
    (hfree : ∀ outer : Place, ¬ written (outer ++ [name])) : after.Holds path text := by
  obtain ⟨guard, hlookUp⟩ := hholds
  obtain ⟨place, hplace, hfound⟩ := lookUp_eq_ok_iff.1 hlookUp
  obtain ⟨outer, _, -, rfl⟩ := resolve_plain hname hplain (hparts ▸ hplace)
  refine ⟨guard, lookUp_eq_ok_iff.2 ⟨_, h.resolve hplace, face?_eq_file_iff.1 ?_⟩⟩
  rcases h.kept _ _ (face?_eq_file_iff.2 hfound) with hkept | ⟨hwritten, -⟩
  · exact hkept
  · exact absurd hwritten (hfree outer)

theorem holds_put {place : Place} {guard : Guard} (hname : Path.IsName name)
    (hplain : disk.Plain name) (hparts : path.parts = base ++ [name])
    (h : disk.target path = .ok (.file place guard)) (text : String) :
    (disk.put place (.file guard text.toUTF8)).Holds path text ∧
      Extends (∃ outer, · = outer ++ [name]) disk (disk.put place (.file guard text.toUTF8)) := by
  obtain ⟨hplace, hfound⟩ := target_eq_file h
  obtain ⟨outer, around, houter, rfl⟩ := resolve_plain hname hplain (hparts ▸ hplace)
  have hold : ∀ old, disk.find? (outer ++ [name]) = some old →
      ∃ content, old = .file guard content := by
    rcases hfound with ⟨content, hfile⟩ | ⟨hnone, -⟩
    · simp [hfile]
    · simp [hnone]
  have hput := (touches_put_file houter hold text.toUTF8).extends
  have hlater := resolve_toFile (hput.resolve hplace)
  refine ⟨⟨guard, lookUp_eq_ok_iff.2 ⟨_, hlater, find?_put_self houter⟩⟩, ?_⟩
  exact hput.mono (fun _ hother => ⟨outer, hother⟩)

theorem makeDirectory_of_taken {outer : Place} {turn : Turn} {entry : Entry}
    (hname : Path.IsName name) (hparts : targetParts path = base ++ [name])
    (houter : disk.resolve false path base = .ok outer)
    (henter : disk.enter outer name false = .ok turn)
    (hfound : disk.find? (outer ++ [name]) = some entry) :
    disk.makeDirectory path = .error .alreadyThere := by
  obtain ⟨_, -, -, hturn⟩ := enter_eq_ok_iff.1 henter
  rw [makeDirectory, hparts, List.dropLast_concat, houter, List.getLast?_concat]
  change (disk.enter outer name false >>= _) = _
  rw [henter, ← hturn, Disk.turn, if_neg (by simp [hname.ne_empty, hname.ne_dot]),
    if_neg hname.ne_dots]
  cases disk.link? (outer ++ [name]) with
  | some target => rfl
  | none =>
    change (if (disk.find? (outer ++ [name])).isSome then _ else _) = _
    rw [hfound]
    rfl

/-- Unless a path leads to a directory, what has its name stops the making of directories at once,
and the disk stays as it is. This is so for a link that leads nowhere. -/
theorem makeDirectories_of_taken {outer : Place} {turn : Turn} {entry : Entry}
    (hname : Path.IsName name) (hparts : targetParts path = base ++ [name])
    (houter : disk.resolve false path base = .ok outer)
    (henter : disk.enter outer name false = .ok turn)
    (hfound : disk.find? (outer ++ [name]) = some entry) (hnone : disk.isDirectory path = false) :
    disk.makeDirectories path = (disk, .error .alreadyThere) := by
  have htext : path.text.isEmpty = false := by
    cases htext : path.text.isEmpty with
    | false => rfl
    | true =>
      obtain ⟨text⟩ := path
      obtain rfl := String.isEmpty_iff.1 htext
      have hempty : targetParts ⟨""⟩ = [] := by decide
      simp [hempty] at hparts
  rw [makeDirectories, htext, makeLine, makeDirectory_of_taken hname hparts houter henter hfound]
  simp [hnone]

example :
    let disk := fresh.put (fresh.current ++ ["out"]) (.link ⟨"nowhere"⟩)
    (disk.makeDirectories ⟨"out"⟩).2 = .error .alreadyThere ∧
      (disk.makeDirectories ⟨"nowhere"⟩).2 = .ok () := by
  decide +kernel

end Disk

end TemplateCode.Files
