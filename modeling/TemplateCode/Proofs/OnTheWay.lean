import TemplateCode.Proofs.PlainNames

/-! Paths on the way to a path. The parent of a path and the ancestors of that one begin where the
path begins and follow its parts, and each time something of the path is left. -/

namespace TemplateCode.Files

namespace Path

variable {path target : Path}

theorem fromRoot_iff : path.fromRoot = true ↔ ∃ part rest, path.parts = "" :: part :: rest := by
  rw [fromRoot, parts]
  cases path.text.toList with
  | nil => simp
  | cons c chars =>
    obtain ⟨first, pieces, hpieces⟩ := List.exists_cons_of_ne_nil (List.splitOn_ne_nil '/' chars)
    rw [List.splitOn_cons_eq_if_modifyHead, hpieces]
    by_cases hc : c = '/'
    · simp [hc]
    · simp [hc]

theorem parts_ofReversed {rev : List String} (hne : rev ≠ []) (hroot : rev ≠ [""])
    (hslash : ∀ part ∈ rev, '/' ∉ part.toList) : (ofReversed rev).parts = rev.reverse := by
  have htext :
      (ofReversed rev).text.toList = ['/'].intercalate (rev.reverse.map String.toList) := by
    rw [ofReversed, if_neg hroot, String.toList_intercalate]
    rfl
  have hpieces : ∀ piece ∈ rev.reverse.map String.toList, '/' ∉ piece := by simpa using hslash
  rw [parts, htext, List.splitOn_intercalate '/' hpieces (by simpa using hne), List.map_map]
  exact (List.map_congr_left fun part _ => String.ofList_toList).trans (List.map_id _)

theorem trimEnd_suffix (rev : List String) : trimEnd rev <:+ rev := by
  fun_induction trimEnd rev with
  | case1 => exact List.suffix_rfl
  | case2 => exact List.suffix_rfl
  | case3 part rest _ hskip ih => exact ih.trans (List.suffix_cons part rest)
  | case4 => exact List.suffix_rfl

theorem trimEnd_ne_nil {rev : List String} (h : rev ≠ []) : trimEnd rev ≠ [] := by
  fun_induction trimEnd rev with
  | case1 => exact h
  | case2 => exact h
  | case3 part rest hrest hskip ih => exact ih hrest
  | case4 => exact h

theorem says_of_trimEnd {rev rest : List String} {part : String} (h : trimEnd rev = part :: rest)
    (hrest : rest ≠ []) : part ≠ "" ∧ part ≠ "." := by
  fun_induction trimEnd rev with
  | case1 => cases h
  | case2 =>
    cases h
    exact absurd rfl hrest
  | case3 _ _ _ _ ih => exact ih h
  | case4 _ _ _ hsays =>
    cases h
    exact not_or.1 hsays

def Leading (path : Path) (front : List String) : Prop :=
  ∃ back, path.parts = front ++ back ∧ ∃ part ∈ back, part ≠ "" ∧ part ≠ "."

theorem Leading.shorten {front shorter : List String} (h : path.Leading front)
    (hshorter : shorter <+: front) : path.Leading shorter := by
  obtain ⟨between, rfl⟩ := hshorter
  obtain ⟨back, hparts, part, hpart, hsays⟩ := h
  refine ⟨between ++ back, ?_, part, List.mem_append_right _ hpart, hsays⟩
  rw [hparts, List.append_assoc]

theorem leading_of_trimEnd {rest : List String} {part : String}
    (h : trimEnd path.parts.reverse = part :: rest) (hrest : rest ≠ []) :
    path.Leading rest.reverse := by
  obtain ⟨dropped, hdropped⟩ := trimEnd_suffix path.parts.reverse
  have hparts : path.parts = rest.reverse ++ part :: dropped.reverse := by
    rw [← List.reverse_reverse path.parts, ← hdropped, h]
    simp
  exact ⟨_, hparts, part, List.mem_cons_self, says_of_trimEnd h hrest⟩

/-- A path that begins where another one begins and follows it for a while. -/
structure OnTheWay (path target : Path) : Prop where
  fromRoot_eq : path.fromRoot = target.fromRoot
  leading : target.Leading (Disk.targetParts path)

theorem OnTheWay.leadsTo_eq (h : path.OnTheWay target) (disk : Disk) :
    disk.LeadsTo path = disk.LeadsTo target := by
  funext parts place
  rw [Disk.LeadsTo, Disk.LeadsTo, Disk.start, Disk.start, h.fromRoot_eq]

theorem targetParts_initial (path : Path) : Disk.targetParts path <+: path.parts := by
  have hsuffix := List.dropWhile_suffix (l := path.parts.reverse) (fun part => part = "")
  simpa [Disk.targetParts] using List.reverse_prefix.2 hsuffix

theorem onTheWay_ofReversed {rev : List String} (hne : rev ≠ [])
    (h : target.Leading rev.reverse) : (ofReversed rev).OnTheWay target := by
  by_cases hroot : rev = [""]
  · subst hroot
    obtain ⟨back, hparts, part, hpart, -⟩ := id h
    obtain ⟨next, rest, rfl⟩ := List.exists_cons_of_ne_nil (List.ne_nil_of_mem hpart)
    have htarget : target.fromRoot = true := fromRoot_iff.2 ⟨next, rest, hparts⟩
    have hnone : Disk.targetParts (ofReversed [""]) = [] := by decide
    refine ⟨htarget.symm, ?_⟩
    rw [hnone]
    exact h.shorten List.nil_prefix
  · obtain ⟨back, hparts, -⟩ := id h
    have hslash : ∀ part ∈ rev, '/' ∉ part.toList := by
      intro part hpart
      have hmem : part ∈ target.parts := by
        rw [hparts]
        exact List.mem_append_left _ (List.mem_reverse.2 hpart)
      exact noSlash_of_mem_parts hmem
    have hown := parts_ofReversed hne hroot hslash
    refine ⟨?_, h.shorten (hown ▸ targetParts_initial (ofReversed rev))⟩
    rw [Bool.eq_iff_iff, fromRoot_iff, fromRoot_iff, hown, hparts]
    -- a single part is not empty, so it does not begin at the root, whatever follows
    match hrev : rev.reverse with
    | [] => exact absurd (List.reverse_eq_nil_iff.1 hrev) hne
    | [first] =>
      have hfirst : first ≠ "" := by
        rintro rfl
        exact hroot (List.reverse_eq_iff.1 hrev)
      simp [hfirst]
    | first :: second :: rest => simp

theorem onTheWay_of_parent? {parent : Path} (h : path.parent? = some parent)
    (hne : parent ≠ ⟨""⟩) : parent.OnTheWay path := by
  rw [parent?] at h
  split at h
  · cases h
  · split at h
    · cases h
    · exact absurd (Option.some.inj h).symm hne
  · next part rest hrest htrimmed =>
    cases h
    refine onTheWay_ofReversed (trimEnd_ne_nil hrest) ?_
    have hshorter : (trimEnd rest).reverse <+: rest.reverse :=
      List.reverse_prefix.2 (trimEnd_suffix rest)
    exact (leading_of_trimEnd htrimmed hrest).shorten hshorter

theorem mem_ancestorsOf {rev : List String} {ancestor : Path} (h : ancestor ∈ ancestorsOf rev) :
    ∃ part rest, part :: rest <:+ rev ∧ part ≠ "" ∧ ancestor = ofReversed (part :: rest) := by
  fun_induction ancestorsOf rev with
  | case1 => cases h
  | case2 part rest _ ih =>
    obtain ⟨last, outer, hsuffix, hancestor⟩ := ih h
    exact ⟨last, outer, hsuffix.trans (List.suffix_cons part rest), hancestor⟩
  | case3 part rest hsays ih =>
    rcases List.mem_cons.1 h with rfl | h
    · exact ⟨part, rest, List.suffix_rfl, fun hempty => hsays (.inl hempty), rfl⟩
    · obtain ⟨last, outer, hsuffix, hancestor⟩ := ih h
      exact ⟨last, outer, hsuffix.trans (List.suffix_cons part rest), hancestor⟩

theorem suffix_dropWhile {α : Type} {p : α → Bool} {x : α} {xs ys : List α}
    (h : x :: xs <:+ ys) (hx : p x = false) : x :: xs <:+ ys.dropWhile p := by
  induction ys with
  | nil => exact h
  | cons y ys ih =>
    rw [List.dropWhile_cons]
    rcases List.suffix_cons_iff.1 h with heq | hsuffix
    · cases heq
      simp [hx]
    · split
      · exact ih hsuffix
      · exact h

theorem OnTheWay.ancestor (h : path.OnTheWay target) {ancestor : Path}
    (hancestor : ancestor ∈ path.ancestors) : ancestor.OnTheWay target := by
  rw [ancestors] at hancestor
  split at hancestor
  · cases hancestor
  · next last outer htrimmed =>
    obtain ⟨part, rest, hsuffix, hpart, rfl⟩ := mem_ancestorsOf hancestor
    have houter : outer <:+ path.parts.reverse := by
      refine (List.suffix_cons last outer).trans ?_
      rw [← htrimmed]
      exact trimEnd_suffix _
    -- the ancestor does not end in an empty part, so it is left when those at the end are dropped
    have hkept := suffix_dropWhile (hsuffix.trans houter) (p := (· = "")) (by simpa using hpart)
    refine onTheWay_ofReversed (List.cons_ne_nil part rest) (h.leading.shorten ?_)
    exact List.reverse_prefix.2 hkept

theorem fromRoot_join (directory : Path) {name : String} (h : '/' ∉ name.toList) :
    (directory.join name).fromRoot = directory.fromRoot := by
  have hname : name.toList.head? ≠ some '/' := fun hhead => h (List.mem_of_mem_head? hhead)
  rw [join, fromRoot, fromRoot]
  cases htext : directory.text.toList with
  | nil => simp [String.toList_eq_nil_iff.1 htext, hname]
  | cons c chars => split <;> simp [htext]

theorem onTheWay_join (directory : Path) {name : String} (hname : IsName name) :
    directory.OnTheWay (directory.join name) := by
  obtain ⟨base, hparts, hdirectory⟩ := directory.parts_join hname.noSlash
  have hbase : (directory.join name).Leading base :=
    ⟨[name], hparts, name, List.mem_singleton_self name, hname.ne_empty, hname.ne_dot⟩
  have hkept : (base.reverse.dropWhile (· = "")).reverse <+: base := by
    simpa using List.reverse_prefix.2 (List.dropWhile_suffix (l := base.reverse) (· = ""))
  refine ⟨(fromRoot_join directory hname.noSlash).symm, hbase.shorten ?_⟩
  rcases hdirectory with hsame | hslash
  · rw [← hsame]
    exact targetParts_initial directory
  · simpa [Disk.targetParts, hslash] using hkept

end Path

end TemplateCode.Files
