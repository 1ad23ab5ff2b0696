import TemplateCode.Proofs.DiskFrame

/-! The places that change. Writing to a path changes the place that the path leads to, and making a
directory the place where the directory was missing; all other places stay as they are. Where a path
leads is a matter of links alone, so it is the same before and after. -/

namespace TemplateCode.Files

namespace Disk

variable {written made : Place → Prop} {disk before between after : Disk} {path : Path}

/-- Every place is as before, except for files at places that are written, and new directories at
places of which it is said that they are made. A file that was there keeps its guard. -/
structure Touches (written made : Place → Prop) (before after : Disk) : Prop where
  current : after.current = before.current
  places : ∀ place, after.face? place = before.face? place ∨
    (written place ∧ ∃ guard,
      (∀ entry, before.face? place = some entry → ∃ content, entry = .file guard content) ∧
        ∃ content, after.face? place = some (.file guard content)) ∨
    (made place ∧ before.face? place = none ∧
      ∃ outer : Guard, after.face? place = some (.directory outer.inherited []))

namespace Touches

theorem refl (written made : Place → Prop) (disk : Disk) : Touches written made disk disk :=
  ⟨rfl, fun _ => .inl rfl⟩

theorem mono {written' made' : Place → Prop} (h : Touches written made before after)
    (hwritten : ∀ place, written place → written' place)
    (hmade : ∀ place, made place → made' place) : Touches written' made' before after where
  current := h.current
  places place := by
    rcases h.places place with hsame | ⟨hplace, hfiles⟩ | ⟨hplace, hnew⟩
    · exact .inl hsame
    · exact .inr (.inl ⟨hwritten place hplace, hfiles⟩)
    · exact .inr (.inr ⟨hmade place hplace, hnew⟩)

theorem trans (h₁ : Touches written made before between)
    (h₂ : Touches written made between after) : Touches written made before after where
  current := h₂.current.trans h₁.current
  places place := by
    rcases h₁.places place with
      hfirst | ⟨hwritten, guard, hold, content, hfile⟩ | ⟨hmade, hnone, outer, hnew⟩
    · rw [← hfirst]
      exact h₂.places place
    · refine .inr (.inl ⟨hwritten, guard, hold, ?_⟩)
      rcases h₂.places place with hsecond | ⟨-, _, hkept, hafter⟩ | ⟨-, hmissing, -⟩
      · exact ⟨content, hsecond.trans hfile⟩
      · obtain ⟨_, hsame⟩ := hkept _ hfile
        cases hsame
        exact hafter
      · rw [hfile] at hmissing
        cases hmissing
    · refine .inr (.inr ⟨hmade, hnone, ?_⟩)
      rcases h₂.places place with hsecond | ⟨-, _, hkept, -⟩ | ⟨-, hmissing, -⟩
      · exact ⟨outer, hsecond.trans hnew⟩
      · obtain ⟨_, hdirectory⟩ := hkept _ hnew
        cases hdirectory
      · rw [hnew] at hmissing
        cases hmissing

end Touches

theorem Touches.extends (h : Touches written made before after) : Extends written before after where
  current := h.current
  kept := by
    intro place entry hbefore
    rcases h.places place with hsame | ⟨hwritten, guard, hold, hfile⟩ | ⟨-, hnone, -⟩
    · exact .inl (hsame.trans hbefore)
    · exact .inr ⟨hwritten, guard, hold entry hbefore, hfile⟩
    · rw [hbefore] at hnone
      cases hnone
  added := by
    intro place entry hafter
    rcases h.places place with hsame | ⟨hwritten, guard, -, content, hfile⟩ | ⟨-, -, outer, hnew⟩
    · exact .inl (hsame.symm.trans hafter)
    · exact .inr (.inr ⟨hwritten, guard, content, Option.some.inj (hafter.symm.trans hfile)⟩)
    · exact .inr (.inl ⟨outer, Option.some.inj (hafter.symm.trans hnew)⟩)

section Put

variable {place : Place} {name : String} {guard outer : Guard}

theorem touches_put_file (hplace : disk.face? place = some (.directory outer []))
    (hold : ∀ old, disk.find? (place ++ [name]) = some old → ∃ content, old = .file guard content)
    (content : ByteArray) :
    Touches (· = place ++ [name]) (fun _ => False) disk
      (disk.put (place ++ [name]) (.file guard content)) where
  current := rfl
  places other := by
    have hbare : ∀ old, disk.find? (place ++ [name]) = some old → old.Bare := by
      intro old h
      obtain ⟨_, rfl⟩ := hold old h
      exact fun _ => rfl
    by_cases hother : other = place ++ [name]
    · subst hother
      refine .inr (.inl ⟨rfl, guard, fun entry hentry => ?_, content, ?_⟩)
      · obtain ⟨old, hfound, rfl⟩ := Option.map_eq_some_iff.1 hentry
        obtain ⟨bytes, rfl⟩ := hold old hfound
        exact ⟨bytes, rfl⟩
      · exact face?_eq_file_iff.2 (find?_put_self hplace)
    · exact .inl (face?_put_of_ne hplace hbare (fun _ => rfl) hother)

theorem touches_put_directory (hplace : disk.face? place = some (.directory outer []))
    (hold : disk.find? (place ++ [name]) = none) :
    Touches (fun _ => False) (· = place ++ [name]) disk
      (disk.put (place ++ [name]) (.directory outer.inherited [])) where
  current := rfl
  places other := by
    by_cases hother : other = place ++ [name]
    · subst hother
      refine .inr (.inr ⟨rfl, ?_, outer, ?_⟩)
      · rw [face?, hold]
        rfl
      · rw [face?, find?_put_self hplace]
        rfl
    · exact .inl (face?_put_of_ne hplace (by simp [hold]) (fun _ => rfl) hother)

end Put

/-- Where the parts of a path lead from a place, by names and links alone. What is missing on the
way is thought to be there, and links are followed to their end. -/
inductive Leads (disk : Disk) : Place → List String → Place → Prop
  | done (place : Place) : Leads disk place [] place
  | name {place next last : Place} {part : String} {rest : List String} :
      disk.turn place part = .step next → Leads disk next rest last →
        Leads disk place (part :: rest) last
  | link {place start last : Place} {part : String} {parts rest : List String} :
      disk.turn place part = .along start parts → Leads disk start (parts ++ rest) last →
        Leads disk place (part :: rest) last

theorem Leads.concat {place outer next : Place} {front : List String} {part : String}
    (h : disk.Leads place front outer) (hpart : disk.turn outer part = .step next) :
    disk.Leads place (front ++ [part]) next := by
  induction h with
  | done place => exact .name hpart (.done next)
  | name hturn _ ih => exact .name hturn (ih hpart)
  | link hturn _ ih =>
    have hrest := ih hpart
    rw [List.append_assoc] at hrest
    exact .link hturn hrest

def LeadsTo (disk : Disk) (path : Path) (parts : List String) (place : Place) : Prop :=
  disk.Leads (disk.start path) parts place

theorem leadsTo_of_resolve {toFile : Bool} {parts : List String} {place : Place}
    (h : disk.resolve toFile path parts = .ok place) : disk.LeadsTo path parts place := by
  obtain ⟨_, -, hwalk⟩ := bind_eq_ok_iff.1 h
  refine walk_induction Leads.done (fun henter ih => ?_) (fun henter ih => ?_) hwalk
  · obtain ⟨_, -, -, hturn⟩ := enter_eq_ok_iff.1 henter
    exact .name hturn ih
  · obtain ⟨_, -, -, hturn⟩ := enter_eq_ok_iff.1 henter
    exact .link hturn ih

theorem Leads.of_turn_eq {place last : Place} {parts : List String}
    (hturn : ∀ place part, after.turn place part = before.turn place part)
    (h : after.Leads place parts last) : before.Leads place parts last := by
  induction h with
  | done place => exact .done place
  | name hpart _ ih => exact .name ((hturn _ _).symm.trans hpart) ih
  | link hpart _ ih => exact .link ((hturn _ _).symm.trans hpart) ih

theorem Extends.leadsTo_eq (h : Extends written before after) : after.LeadsTo = before.LeadsTo := by
  funext path parts place
  rw [LeadsTo, LeadsTo, h.start_eq]
  exact propext ⟨.of_turn_eq h.turn_eq, .of_turn_eq fun place part => (h.turn_eq place part).symm⟩

theorem touches_makeDirectory {result : Disk} (h : disk.makeDirectory path = .ok result) :
    Touches (fun _ => False) (disk.LeadsTo path (targetParts path)) disk result := by
  obtain ⟨outer, houter, h⟩ := bind_eq_ok_iff.1 h
  dsimp only at h
  split at h
  · cases h
  · next name hname =>
    obtain ⟨turn, henter, h⟩ := bind_eq_ok_iff.1 h
    split at h
    · cases h
    · next place =>
      obtain ⟨_, -, -, hturn⟩ := enter_eq_ok_iff.1 henter
      have hlead : disk.LeadsTo path (targetParts path) place := by
        rw [← List.dropLast_append_getLast? name hname]
        exact (leadsTo_of_resolve houter).concat hturn
      split at h
      · cases h
      · next hnone =>
        obtain ⟨guard, hroom, h⟩ := bind_eq_ok_iff.1 h
        cases h
        obtain ⟨around, haround, rfl⟩ := room_eq_ok hroom
        rw [Option.not_isSome_iff_eq_none] at hnone
        -- the root is there, so the place has a name of its own
        rcases List.eq_nil_or_concat place with rfl | ⟨front, last, rfl⟩
        · cases hnone
        · rw [List.concat_eq_append] at *
          rw [List.dropLast_concat] at haround
          refine (touches_put_directory haround hnone).mono (fun _ => id) (fun other hother => ?_)
          rw [hother]
          exact hlead

def directoryPlaces (disk : Disk) (paths : List Path) (place : Place) : Prop :=
  ∃ path ∈ paths, disk.LeadsTo path (targetParts path) place

theorem Extends.directoryPlaces_eq (h : Extends written before after) (paths : List Path) :
    after.directoryPlaces paths = before.directoryPlaces paths := by
  funext place
  simp only [directoryPlaces, h.leadsTo_eq]

/-- What is made of a line are directories of the line, also if a later one cannot be made. -/
theorem touches_makeLine (disk : Disk) (paths : List Path) :
    Touches (fun _ => False) (disk.directoryPlaces paths) disk (disk.makeLine paths).1 := by
  have hfirst : ∀ {disk result : Disk} {path : Path} (outer : List Path),
      disk.makeDirectory path = .ok result →
        Touches (fun _ => False) (disk.directoryPlaces (path :: outer)) disk result := by
    intro disk result path outer h
    refine (touches_makeDirectory h).mono (fun _ => id) (fun place hplace => ?_)
    exact ⟨path, List.mem_cons_self, hplace⟩
  have hrest : ∀ {disk result : Disk} (path : Path) {outer : List Path},
      Touches (fun _ => False) (disk.directoryPlaces outer) disk result →
        Touches (fun _ => False) (disk.directoryPlaces (path :: outer)) disk result := by
    intro disk result path outer h
    refine h.mono (fun _ => id) (fun place hplace => ?_)
    obtain ⟨q, hq, hplace⟩ := hplace
    exact ⟨q, List.mem_cons_of_mem path hq, hplace⟩
  fun_induction makeLine disk paths with
  | case1 => exact .refl _ _ disk
  | case2 path outer result hresult => exact hfirst outer hresult
  | case3 path outer hmissing made houter all hall ih =>
    rw [houter] at ih
    -- the last directory is made on a disk that already has the others
    have hlast := hfirst outer hall
    rw [ih.extends.directoryPlaces_eq] at hlast
    exact (hrest path ih).trans hlast
  | case4 path outer hmissing made houter fault hfault ih =>
    rw [houter] at ih
    exact hrest path ih
  | case5 path outer hmissing hfailed ih => exact hrest path ih
  | case6 => exact .refl _ _ disk

theorem touches_makeDirectories (disk : Disk) (path : Path) :
    Touches (fun _ => False) (disk.directoryPlaces (path :: path.ancestors)) disk
      (disk.makeDirectories path).1 := by
  rw [makeDirectories]
  split
  · exact .refl _ _ disk
  · exact touches_makeLine disk (path :: path.ancestors)

theorem root_of_resolve {toFile : Bool} {place : Place}
    (h : disk.resolve toFile path path.parts = .ok place) :
    ∃ guard, disk.face? [] = some (.directory guard []) := by
  have hne : path.parts ≠ [] := by simp [Path.parts, List.splitOn_ne_nil]
  obtain ⟨part, parts, hcons⟩ := List.exists_cons_of_ne_nil hne
  obtain ⟨_, -, hwalk⟩ := bind_eq_ok_iff.1 h
  rw [hcons, walk, walkWith] at hwalk
  obtain ⟨turn, henter, -⟩ := bind_eq_ok_iff.1 hwalk
  obtain ⟨guard, hstart, -⟩ := enter_eq_ok_iff.1 henter
  cases hplace : disk.start path with
  | nil => exact ⟨guard, hplace ▸ hstart⟩
  | cons name rest =>
    obtain ⟨inside, hfound⟩ := face?_eq_directory_iff.1 hstart
    rw [hplace, ← List.nil_append (name :: rest)] at hfound
    exact directory_above hfound

theorem target_eq_file {place : Place} {guard : Guard}
    (h : disk.target path = .ok (.file place guard)) :
    disk.resolve true path path.parts = .ok place ∧
      ((∃ content, disk.find? place = some (.file guard content)) ∨
        disk.find? place = none ∧ disk.room place = .ok guard) := by
  obtain ⟨last, hlast, h⟩ := bind_eq_ok_iff.1 h
  dsimp only at h
  split at h
  · next hnone =>
    obtain ⟨_, hroom, h⟩ := bind_eq_ok_iff.1 h
    cases h
    exact ⟨hlast, .inr ⟨hnone, hroom⟩⟩
  · cases h
  · next content hfile =>
    obtain ⟨_, -, h⟩ := bind_eq_ok_iff.1 h
    cases h
    exact ⟨hlast, .inl ⟨content, hfile⟩⟩
  · obtain ⟨_, -, h⟩ := bind_eq_ok_iff.1 h
    split at h <;> cases h
  · cases h

theorem touches_target {place : Place} {guard : Guard}
    (h : disk.target path = .ok (.file place guard)) (content : ByteArray) :
    Touches (disk.LeadsTo path path.parts) (fun _ => False) disk
      (disk.put place (.file guard content)) := by
  obtain ⟨hplace, hfound⟩ := target_eq_file h
  have hlead := leadsTo_of_resolve hplace
  suffices hput : Touches (· = place) (fun _ => False) disk
      (disk.put place (.file guard content)) from
    hput.mono (fun other hother => hother ▸ hlead) (fun _ => id)
  rcases List.eq_nil_or_concat place with rfl | ⟨outer, name, rfl⟩
  -- the root is no file and is not missing, since the walk went through it
  · obtain ⟨_, hroot⟩ := root_of_resolve hplace
    obtain ⟨inside, hdirectory⟩ := face?_eq_directory_iff.1 hroot
    simp [hdirectory] at hfound
  · rw [List.concat_eq_append] at hfound ⊢
    rcases hfound with ⟨bytes, hfile⟩ | ⟨hnone, hroom⟩
    · obtain ⟨_, houter⟩ := directory_above hfile
      exact touches_put_file houter (by simp [hfile]) content
    · obtain ⟨_, houter, -⟩ := room_eq_ok hroom
      rw [List.dropLast_concat] at houter
      exact touches_put_file houter (by simp [hnone]) content

end Disk

end TemplateCode.Files
