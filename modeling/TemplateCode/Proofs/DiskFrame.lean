import TemplateCode.Files.Disk
import TemplateCode.Proofs.Outcome

/-! What writing and making directories leave as it was. A walk along a path depends on the disk
only through directories and links; files come and go without changing where a path leads. -/

namespace TemplateCode.Files

namespace Entry

theorem find?_append (entry : Entry) (place rest : Place) :
    entry.find? (place ++ rest) = (entry.find? place).bind (·.find? rest) := by
  induction place generalizing entry with
  | nil => rfl
  | cons name place ih =>
    rw [List.cons_append, find?, find?, Option.bind_assoc]
    exact Option.bind_congr (fun child _ => ih child)

def face : Entry → Entry
  | .directory guard _ => .directory guard []
  | entry => entry

theorem directory_of_child? {entry child : Entry} {name : String}
    (h : entry.child? name = some child) :
    ∃ guard inside, entry = .directory guard inside ∧ inside.lookup name = some child := by
  cases entry with
  | directory guard inside => exact ⟨guard, inside, rfl, h⟩
  | file | device | link => cases h

theorem lookup_filter_ne {name other : String} (hne : other ≠ name)
    (inside : List (String × Entry)) :
    (inside.filter (fun e => e.1 != name)).lookup other = inside.lookup other := by
  induction inside with
  | nil => rfl
  | cons step rest ih =>
    obtain ⟨key, entry⟩ := step
    by_cases hkey : key = name
    · have hother : (other == key) = false := by simpa [hkey] using hne
      rw [List.filter_cons_of_neg (by simpa using hkey), ih, List.lookup_cons, hother]
    · rw [List.filter_cons_of_pos (by simpa using hkey), List.lookup_cons, List.lookup_cons, ih]

theorem child?_put {guard : Guard} {inside : List (String × Entry)} (new : Entry)
    (name other : String) (rest : Place) :
    ((directory guard inside).put new (name :: rest)).child? other =
      if other = name then some (((inside.lookup name).getD (.directory .free [])).put new rest)
      else inside.lookup other := by
  rw [put, child?]
  by_cases h : other = name
  · simp [h]
  · have hother : (other == name) = false := by simpa using h
    rw [List.lookup_cons, hother, if_neg h]
    exact lookup_filter_ne h inside

theorem find?_put_self {entry : Entry} {place : Place} {guard : Guard}
    {inside : List (String × Entry)} (h : entry.find? place = some (.directory guard inside))
    (new : Entry) (name : String) :
    (entry.put new (place ++ [name])).find? (place ++ [name]) = some new := by
  induction place generalizing entry with
  | nil =>
    obtain rfl : entry = .directory guard inside := by simpa [find?] using h
    rw [List.nil_append, find?, child?_put, if_pos rfl]
    rfl
  | cons first place ih =>
    obtain ⟨child, hchild, hfound⟩ := Option.bind_eq_some_iff.1 h
    obtain ⟨outerGuard, around, rfl, hlookup⟩ := directory_of_child? hchild
    rw [List.cons_append, find?, child?_put, if_pos rfl, hlookup]
    exact ih hfound

def Bare (entry : Entry) : Prop := ∀ name, entry.child? name = none

theorem Bare.find?_cons {entry : Entry} (h : entry.Bare) (name : String) (rest : Place) :
    entry.find? (name :: rest) = none := by
  rw [find?, h name]
  rfl

/-- Replacing one bare entry by another, or putting one where nothing was, changes the face of no
other place. -/
theorem face_find?_put {entry new : Entry} {place other : Place} {name : String}
    {guard : Guard} {inside : List (String × Entry)}
    (hplace : entry.find? place = some (.directory guard inside))
    (hold : ∀ old, entry.find? (place ++ [name]) = some old → old.Bare) (hnew : new.Bare)
    (hne : other ≠ place ++ [name]) :
    ((entry.put new (place ++ [name])).find? other).map face = (entry.find? other).map face := by
  induction place generalizing entry other with
  | nil =>
    obtain rfl : entry = .directory guard inside := by simpa [find?] using hplace
    cases other with
    | nil => rfl
    | cons step rest =>
      rw [List.nil_append, find?, find?, child?_put]
      by_cases hstep : step = name
      · subst hstep
        obtain ⟨next, rest, rfl⟩ := List.exists_cons_of_ne_nil (l := rest) (by simpa using hne)
        have hafter : new.find? (next :: rest) = none := hnew.find?_cons next rest
        have hbefore : (inside.lookup step).bind (·.find? (next :: rest)) = none := by
          refine Option.bind_eq_none_iff.2 (fun old hlookup => ?_)
          exact (hold old (by simp [find?, child?, hlookup])).find?_cons next rest
        simp only [if_pos, Option.bind_some, put, hafter, child?, hbefore]
      · rw [if_neg hstep]
        rfl
  | cons first place ih =>
    obtain ⟨child, hchild, hfound⟩ := Option.bind_eq_some_iff.1 hplace
    obtain ⟨outerGuard, around, rfl, hlookup⟩ := directory_of_child? hchild
    cases other with
    | nil => rfl
    | cons step rest =>
      rw [List.cons_append, find?, find?, child?_put]
      by_cases hstep : step = first
      · subst hstep
        have hbelow : ∀ old, child.find? (place ++ [name]) = some old → old.Bare := by
          intro old h
          exact hold old (by simpa [find?, hchild] using h)
        have hrest : rest ≠ place ++ [name] := by simpa using hne
        simpa [hchild, hlookup] using ih hfound hbelow hrest
      · rw [if_neg hstep]
        rfl

end Entry

namespace Disk

variable {disk : Disk} {place : Place} {guard : Guard}

def face? (disk : Disk) (place : Place) : Option Entry := (disk.find? place).map Entry.face

theorem face?_eq_file_iff {content : ByteArray} :
    disk.face? place = some (.file guard content) ↔
      disk.find? place = some (.file guard content) := by
  rw [face?]
  rcases disk.find? place with _ | ⟨_, _⟩ | ⟨_, _⟩ | ⟨_, _⟩ | ⟨_⟩ <;> simp [Entry.face]

theorem link?_eq_some_iff {target : Path} :
    disk.link? place = some target ↔ disk.face? place = some (.link target) := by
  rw [link?, face?]
  rcases disk.find? place with _ | ⟨_, _⟩ | ⟨_, _⟩ | ⟨_, _⟩ | ⟨_⟩ <;> simp [Entry.face]

theorem face?_eq_directory_iff :
    disk.face? place = some (.directory guard []) ↔
      ∃ inside, disk.find? place = some (.directory guard inside) := by
  rw [face?]
  rcases disk.find? place with _ | ⟨_, _⟩ | ⟨_, _⟩ | ⟨_, _⟩ | ⟨_⟩ <;> simp [Entry.face]

theorem directory_eq_ok_iff :
    disk.directory place = .ok guard ↔ disk.face? place = some (.directory guard []) := by
  rw [directory, face?]
  rcases disk.find? place with _ | ⟨_, _⟩ | ⟨_, _⟩ | ⟨_, _⟩ | ⟨_⟩ <;> simp [Entry.face]

theorem directory_above {rest : Place} {name : String} {entry : Entry}
    (h : disk.find? (place ++ name :: rest) = some entry) :
    ∃ guard, disk.face? place = some (.directory guard []) := by
  rw [find?, Entry.find?_append] at h
  obtain ⟨outer, houter, hname⟩ := Option.bind_eq_some_iff.1 h
  obtain ⟨child, hchild, -⟩ := Option.bind_eq_some_iff.1 hname
  obtain ⟨guard, inside, rfl, -⟩ := Entry.directory_of_child? hchild
  exact ⟨guard, face?_eq_directory_iff.2 ⟨inside, houter⟩⟩

/-! Walks, step by step. -/

section Walk

variable {part : String} {isSlashed toFile : Bool} {turn : Turn} {links : Nat}
  {parts : List String} {last : Place}

theorem enter_eq_ok_iff :
    disk.enter place part isSlashed = .ok turn ↔
      ∃ guard, disk.face? place = some (.directory guard []) ∧
        pass guard part isSlashed = .ok () ∧ disk.turn place part = turn := by
  rw [enter, bind_eq_ok_iff]
  constructor
  · rintro ⟨guard, hguard, h⟩
    obtain ⟨_, hpass, hturn⟩ := bind_eq_ok_iff.1 h
    exact ⟨guard, directory_eq_ok_iff.1 hguard, hpass, Except.ok.inj hturn⟩
  · rintro ⟨guard, hplace, hpass, rfl⟩
    exact ⟨guard, directory_eq_ok_iff.2 hplace, bind_eq_ok_iff.2 ⟨(), hpass, rfl⟩⟩

/-- What holds at the end of every walk and is kept by each step back along it holds of the walk as
a whole, however many links it follows. -/
theorem walk_induction {motive : Place → List String → Place → Prop}
    (done : ∀ place, motive place [] place)
    (name : ∀ {place next last part rest isSlashed},
      disk.enter place part isSlashed = .ok (.step next) → motive next rest last →
        motive place (part :: rest) last)
    (link : ∀ {place start last part parts rest isSlashed},
      disk.enter place part isSlashed = .ok (.along start parts) →
        motive start (parts ++ rest) last → motive place (part :: rest) last)
    (h : disk.walk toFile links place parts = .ok last) : motive place parts last := by
  have key : ∀ follow : Place → List String → Except Fault Place,
      (∀ {start parts last}, follow start parts = .ok last → motive start parts last) →
        ∀ parts place last, disk.walkWith toFile follow place parts = .ok last →
          motive place parts last := by
    intro follow hfollow parts
    induction parts with
    | nil =>
      intro place last h
      cases h
      exact done place
    | cons part rest ih =>
      intro place last h
      rw [walkWith] at h
      obtain ⟨turn, henter, hrest⟩ := bind_eq_ok_iff.1 h
      cases turn with
      | step next => exact name henter (ih next last hrest)
      | along start parts => exact link henter (hfollow hrest)
  induction links generalizing place parts last with
  | zero => exact key (fun _ _ => .error .tooManyLinks) nofun parts place last h
  | succ links ih => exact key _ ih parts place last h

theorem walk_mono {before after : Disk} {toFile' : Bool}
    (henter : ∀ {place part rest turn},
      before.enter place part (toFile && onlySlashes rest) = .ok turn →
        after.enter place part (toFile' && onlySlashes rest) = .ok turn)
    (h : before.walk toFile links place parts = .ok last) :
    after.walk toFile' links place parts = .ok last := by
  have key : ∀ follow follow' : Place → List String → Except Fault Place,
      (∀ {start parts last}, follow start parts = .ok last → follow' start parts = .ok last) →
        ∀ parts place last, before.walkWith toFile follow place parts = .ok last →
          after.walkWith toFile' follow' place parts = .ok last := by
    intro follow follow' hfollow parts
    induction parts with
    | nil => exact fun place last h => h
    | cons part rest ih =>
      intro place last h
      rw [walkWith] at h ⊢
      obtain ⟨turn, hturn, hrest⟩ := bind_eq_ok_iff.1 h
      refine bind_eq_ok_iff.2 ⟨turn, henter hturn, ?_⟩
      cases turn with
      | step next => exact ih next last hrest
      | along start parts => exact hfollow hrest
  induction links generalizing place parts last with
  | zero => exact key (fun _ _ => .error .tooManyLinks) _ nofun parts place last h
  | succ links ih => exact key _ _ ih parts place last h

theorem pass_unslashed (h : pass guard part isSlashed = .ok ()) :
    pass guard part false = .ok () := by
  cases isSlashed with
  | false => exact h
  | true =>
    rw [pass] at h ⊢
    split
    · rfl
    · next hpart =>
      rw [if_neg hpart] at h
      obtain ⟨_, hallow, h⟩ := bind_eq_ok_iff.1 h
      refine bind_eq_ok_iff.2 ⟨(), hallow, ?_⟩
      split
      · rfl
      · next hdots =>
        rw [if_neg hdots] at h
        cases h

theorem resolve_toFile {path : Path} (h : disk.resolve toFile path parts = .ok place) :
    disk.resolve false path parts = .ok place := by
  obtain ⟨_, hname, hwalk⟩ := bind_eq_ok_iff.1 h
  refine bind_eq_ok_iff.2 ⟨(), hname, walk_mono (fun henter => ?_) hwalk⟩
  obtain ⟨guard, hplace, hpass, hturn⟩ := enter_eq_ok_iff.1 henter
  exact enter_eq_ok_iff.2 ⟨guard, hplace, pass_unslashed hpass, hturn⟩

end Walk

/-- A disk is as before, except for new directories where nothing was, and files at places of which
it is said that they are written. Those keep their guards. -/
structure Extends (written : Place → Prop) (before after : Disk) : Prop where
  current : after.current = before.current
  kept : ∀ place entry, before.face? place = some entry →
    after.face? place = some entry ∨
      written place ∧ ∃ guard, (∃ content, entry = .file guard content) ∧
        ∃ content, after.face? place = some (.file guard content)
  added : ∀ place entry, after.face? place = some entry →
    before.face? place = some entry ∨ (∃ outer : Guard, entry = .directory outer.inherited []) ∨
      written place ∧ ∃ guard content, entry = .file guard content

namespace Extends

variable {written : Place → Prop} {before between after : Disk}

theorem refl (written : Place → Prop) (disk : Disk) : Extends written disk disk :=
  ⟨rfl, fun _ _ h => .inl h, fun _ _ h => .inl h⟩

theorem trans (h₁ : Extends written before between) (h₂ : Extends written between after) :
    Extends written before after where
  current := h₂.current.trans h₁.current
  kept := by
    intro place entry hbefore
    rcases h₁.kept place entry hbefore with hbetween | ⟨hwritten, guard, hfile, content, hbetween⟩
    · exact h₂.kept place entry hbetween
    · refine .inr ⟨hwritten, guard, hfile, ?_⟩
      rcases h₂.kept place _ hbetween with hafter | ⟨-, _, ⟨_, hsame⟩, hafter⟩
      · exact ⟨content, hafter⟩
      · cases hsame
        exact hafter
  added := by
    intro place entry hafter
    rcases h₂.added place entry hafter with hbetween | hnew
    · exact h₁.added place entry hbetween
    · exact .inr hnew

theorem mono {more : Place → Prop} (h : Extends written before after)
    (hmore : ∀ place, written place → more place) : Extends more before after where
  current := h.current
  kept place entry hbefore :=
    (h.kept place entry hbefore).imp_right
      (fun ⟨hwritten, hfiles⟩ => ⟨hmore place hwritten, hfiles⟩)
  added place entry hafter :=
    (h.added place entry hafter).imp_right
      (Or.imp_right (fun ⟨hwritten, hfile⟩ => ⟨hmore place hwritten, hfile⟩))

theorem directory (h : Extends written before after) {place : Place} {guard : Guard}
    (hplace : before.face? place = some (.directory guard [])) :
    after.face? place = some (.directory guard []) := by
  rcases h.kept place _ hplace with hafter | ⟨-, _, ⟨_, hfile⟩, -⟩
  · exact hafter
  · cases hfile

theorem link?_eq (h : Extends written before after) (place : Place) :
    after.link? place = before.link? place := by
  refine Option.ext (fun target => ?_)
  rw [link?_eq_some_iff, link?_eq_some_iff]
  constructor
  · intro hafter
    rcases h.added place _ hafter with hbefore | ⟨_, hnew⟩ | ⟨-, _, _, hfile⟩
    · exact hbefore
    · cases hnew
    · cases hfile
  · intro hbefore
    rcases h.kept place _ hbefore with hafter | ⟨-, _, ⟨_, hfile⟩, -⟩
    · exact hafter
    · cases hfile

theorem turn_eq (h : Extends written before after) (place : Place) (part : String) :
    after.turn place part = before.turn place part := by
  rw [turn, turn, h.link?_eq]

theorem start_eq (h : Extends written before after) (path : Path) :
    after.start path = before.start path := by
  rw [start, start, h.current]

theorem resolve (h : Extends written before after) {toFile : Bool} {path : Path}
    {parts : List String} {place : Place} (hplace : before.resolve toFile path parts = .ok place) :
    after.resolve toFile path parts = .ok place := by
  obtain ⟨_, hname, hwalk⟩ := bind_eq_ok_iff.1 hplace
  rw [← h.start_eq] at hwalk
  refine bind_eq_ok_iff.2 ⟨(), hname, walk_mono (fun henter => ?_) hwalk⟩
  obtain ⟨guard, hdirectory, hpass, hturn⟩ := enter_eq_ok_iff.1 henter
  exact enter_eq_ok_iff.2 ⟨guard, h.directory hdirectory, hpass, (h.turn_eq _ _).trans hturn⟩

end Extends

theorem lookUp_eq_ok_iff {path : Path} {found : Option Entry} :
    disk.lookUp path = .ok found ↔
      ∃ place, disk.resolve false path path.parts = .ok place ∧ disk.find? place = found := by
  rw [lookUp, bind_eq_ok_iff]
  exact exists_congr fun place => and_congr_right fun _ => ⟨Except.ok.inj, congrArg _⟩

/-! Putting a file or an empty directory into a directory. -/

section Put

variable {name : String} {new : Entry}

theorem find?_put_self (hplace : disk.face? place = some (.directory guard [])) :
    (disk.put (place ++ [name]) new).find? (place ++ [name]) = some new := by
  obtain ⟨inside, hfound⟩ := face?_eq_directory_iff.1 hplace
  exact Entry.find?_put_self hfound new name

theorem face?_put_of_ne (hplace : disk.face? place = some (.directory guard []))
    (hold : ∀ old, disk.find? (place ++ [name]) = some old → old.Bare) (hnew : new.Bare)
    {other : Place} (hne : other ≠ place ++ [name]) :
    (disk.put (place ++ [name]) new).face? other = disk.face? other := by
  obtain ⟨inside, hfound⟩ := face?_eq_directory_iff.1 hplace
  exact Entry.face_find?_put hfound hold hnew hne

end Put

theorem room_eq_ok (h : disk.room place = .ok guard) :
    ∃ outer : Guard, disk.face? place.dropLast = some (.directory outer []) ∧
      guard = outer.inherited := by
  obtain ⟨outer, houter, h⟩ := bind_eq_ok_iff.1 h
  obtain ⟨_, -, hguard⟩ := bind_eq_ok_iff.1 h
  exact ⟨outer, directory_eq_ok_iff.1 houter, (Except.ok.inj hguard).symm⟩

end Disk

end TemplateCode.Files
