import Mathlib.Data.List.Infix
import TemplateCode.Proofs.DebugCopy

/-! The line breaks of a copy, read back. A reader puts a line feed for every marker, from left to
right. Since the template's own text is copied as it is, the marker can also come about where that text
meets a marker; of the legible templates this is not so, and each copy is that of a legible one. -/

namespace TemplateCode.Script.DebugCopy

open Literal (lineBreaks)

def withMarks (put : List Char) : List Char → List Char
  | [] => []
  | '!' :: 'L' :: 'B' :: '!' :: rest => put ++ withMarks put rest
  | c :: rest => c :: withMarks put rest

/-- A text that neither contains the marker nor has the first three characters of it right before a line
break, where the marker for the break would complete them. -/
def Legible (text : List Char) : Prop :=
  ∀ c ∈ '!' :: lineBreaks, ¬ ['!', 'L', 'B', c] <:+: text

instance : DecidablePred Legible := fun _ => List.decidableBAll _ _

theorem legible_cons {c : Char} {text : List Char} :
    Legible (c :: text) ↔
      (∀ d ∈ '!' :: lineBreaks, ¬ ['!', 'L', 'B', d] <+: c :: text) ∧ Legible text := by
  simp only [Legible, List.infix_cons_iff, not_or]
  exact ⟨fun h => ⟨fun d hd => (h d hd).1, fun d hd => (h d hd).2⟩,
    fun h d hd => ⟨h.1 d hd, h.2 d hd⟩⟩

theorem legible_cons_of_ne {c : Char} (hc : c ≠ '!') {text : List Char} :
    Legible (c :: text) ↔ Legible text := by
  rw [legible_cons, and_iff_right]
  intro d _ h
  exact hc (List.cons_prefix_cons.1 h).1.symm

theorem withBreaks_plain {c : Char} (hc : c ∉ lineBreaks) (mark rest : List Char) :
    withBreaks mark (c :: rest) = c :: withBreaks mark rest := by
  rw [withBreaks, if_neg hc]
  · rfl
  · rintro tail rfl
    exact absurd (by decide) hc

theorem withBreaks_newline (mark rest : List Char) :
    withBreaks mark ('\n' :: rest) = mark ++ withBreaks mark rest := by
  rw [withBreaks, if_pos (by decide)]
  rintro tail ⟨⟩

theorem prefix_withBreaks_break {b : Char} (hb : b ∈ lineBreaks) (mark rest : List Char) :
    mark <+: withBreaks mark (b :: rest) := by
  generalize htext : b :: rest = text
  fun_cases withBreaks mark text with
  | case1 => exact nomatch htext
  | case2 rest' => exact List.prefix_append _ _
  | case3 c rest' _ =>
    obtain ⟨rfl, -⟩ := List.cons.inj htext
    rw [if_pos hb]
    exact List.prefix_append _ _

theorem cons_prefix_withBreaks {c : Char} (hc : c ∉ '!' :: lineBreaks) {word text : List Char} :
    c :: word <+: withBreaks marker text ↔
      ∃ rest, text = c :: rest ∧ word <+: withBreaks marker rest := by
  rw [List.mem_cons, not_or] at hc
  cases text with
  | nil => simp [withBreaks]
  | cons d rest =>
    by_cases hd : d ∈ lineBreaks
    · obtain ⟨tail, htail⟩ := prefix_withBreaks_break hd marker rest
      rw [← htail, marker, List.cons_append, List.cons_prefix_cons]
      constructor
      · rintro ⟨hmark, -⟩
        exact absurd hmark hc.1
      · rintro ⟨_, hcons, -⟩
        exact absurd ((List.cons.inj hcons).1 ▸ hd) hc.2
    · rw [withBreaks_plain hd, List.cons_prefix_cons]
      constructor
      · rintro ⟨rfl, hword⟩
        exact ⟨rest, rfl, hword⟩
      · rintro ⟨_, hcons, hword⟩
        obtain ⟨rfl, rfl⟩ := List.cons.inj hcons
        exact ⟨rfl, hword⟩

theorem mark_prefix_withBreaks {text : List Char} :
    ['!'] <+: withBreaks marker text ↔ ∃ c ∈ '!' :: lineBreaks, [c] <+: text := by
  cases text with
  | nil => simp [withBreaks]
  | cons d rest =>
    have hfirst : ∀ c, [c] <+: d :: rest ↔ c = d := by
      intro c
      simp [List.cons_prefix_cons]
    simp only [hfirst, exists_eq_right]
    by_cases hd : d ∈ lineBreaks
    · have hmarker : ['!'] <+: marker := by decide
      exact iff_of_true (hmarker.trans (prefix_withBreaks_break hd marker rest))
        (List.mem_cons_of_mem _ hd)
    · rw [withBreaks_plain hd, List.mem_cons, or_iff_left hd]
      simp [List.cons_prefix_cons, eq_comm]

theorem marker_prefix_withBreaks {c : Char} {text : List Char} :
    marker <+: c :: withBreaks marker text ↔
      ∃ d ∈ '!' :: lineBreaks, ['!', 'L', 'B', d] <+: c :: text := by
  have hletters : 'L' ∉ '!' :: lineBreaks ∧ 'B' ∉ '!' :: lineBreaks := by decide
  have hmarker : marker <+: c :: withBreaks marker text ↔
      '!' = c ∧ ['L', 'B', '!'] <+: withBreaks marker text := List.cons_prefix_cons
  rw [hmarker]
  simp only [cons_prefix_withBreaks hletters.1, cons_prefix_withBreaks hletters.2,
    mark_prefix_withBreaks]
  constructor
  · rintro ⟨rfl, _, rfl, rest, rfl, d, hd, hrest⟩
    refine ⟨d, hd, ?_⟩
    simp only [List.cons_prefix_cons, true_and]
    exact hrest
  · rintro ⟨d, hd, tail, htail⟩
    obtain ⟨rfl, rfl⟩ := List.cons.inj htail
    exact ⟨rfl, _, rfl, _, rfl, d, hd, List.prefix_append [d] tail⟩

theorem withMarks_marker (put rest : List Char) :
    withMarks put (marker ++ rest) = put ++ withMarks put rest := rfl

theorem withMarks_cons {c : Char} {rest : List Char} (h : ¬ marker <+: c :: rest)
    (put : List Char) : withMarks put (c :: rest) = c :: withMarks put rest := by
  rw [withMarks]
  rintro tail rfl rfl
  exact h (List.prefix_append marker tail)

theorem withMarks_self (text : List Char) : withMarks marker text = text := by
  fun_induction withMarks marker text with
  | case1 => rfl
  | case2 rest ih => exact congrArg (marker ++ ·) ih
  | case3 c rest _ ih => rw [ih]

theorem withMarks_withBreaks_iff (text : List Char) :
    withMarks ['\n'] (withBreaks marker text) = withBreaks ['\n'] text ↔ Legible text := by
  have hbreak : ∀ b ∈ lineBreaks, b ≠ '!' := by simp [lineBreaks]
  fun_induction withBreaks marker text with
  | case1 => exact iff_of_true rfl (by decide)
  | case2 rest ih =>
    rw [withMarks_marker, withBreaks, legible_cons_of_ne (by decide), legible_cons_of_ne (by decide)]
    exact (List.cons_inj_right _).trans ih
  | case3 c rest hpair ih =>
    have hline : withBreaks ['\n'] (c :: rest) =
        (if c ∈ lineBreaks then ['\n'] else [c]) ++ withBreaks ['\n'] rest := by
      rw [withBreaks]
      exact hpair
    rw [hline]
    by_cases hc : c ∈ lineBreaks
    · rw [if_pos hc, if_pos hc, withMarks_marker, legible_cons_of_ne (hbreak c hc)]
      exact (List.cons_inj_right _).trans ih
    · rw [if_neg hc, if_neg hc, List.singleton_append, List.singleton_append, legible_cons]
      by_cases hmarker : marker <+: c :: withBreaks marker rest
      · -- The reader takes the text's own characters for a mark, and puts a line feed for them.
        obtain ⟨d, hd, hprefix⟩ := marker_prefix_withBreaks.1 hmarker
        obtain ⟨tail, htail⟩ := hmarker
        rw [← htail, withMarks_marker]
        refine iff_of_false (fun h => ?_) fun h => h.1 d hd hprefix
        exact hc ((List.cons.inj h).1 ▸ List.mem_cons_self)
      · have hno : ∀ d ∈ '!' :: lineBreaks, ¬ ['!', 'L', 'B', d] <+: c :: rest :=
          fun d hd h => hmarker (marker_prefix_withBreaks.2 ⟨d, hd, h⟩)
        rw [withMarks_cons hmarker, and_iff_right hno]
        exact (List.cons_inj_right _).trans ih

theorem withBreaks_eq_flatMap (mark text : List Char) :
    withBreaks mark text =
      (withBreaks ['\n'] text).flatMap fun c => if c = '\n' then mark else [c] := by
  fun_induction withBreaks mark text with
  | case1 => rfl
  | case2 rest ih =>
    rw [ih, withBreaks]
    simp
  | case3 c rest hpair ih =>
    rw [ih, withBreaks]
    · by_cases hc : c ∈ lineBreaks
      · simp [hc]
      · have hnewline : c ≠ '\n' := fun h => hc (h ▸ List.mem_cons_self)
        simp [hc, hnewline]
    · exact hpair

theorem withBreaks_withMarks {text : List Char} (htext : ∀ b ∈ lineBreaks, b ∉ text)
    (mark : List Char) : withBreaks mark (withMarks ['\n'] text) = withMarks mark text := by
  fun_induction withMarks ['\n'] text with
  | case1 => rfl
  | case2 rest ih =>
    have hrest : ∀ b ∈ lineBreaks, b ∉ rest := by
      intro b hb h
      exact htext b hb (by simp [h])
    exact (withBreaks_newline mark _).trans (congrArg (mark ++ ·) (ih hrest))
  | case3 c rest hmarker ih =>
    have hrest : ∀ b ∈ lineBreaks, b ∉ rest := by
      intro b hb h
      exact htext b hb (by simp [h])
    have hc : c ∉ lineBreaks := fun h => htext c h List.mem_cons_self
    rw [withBreaks_plain hc, ih hrest, withMarks]
    exact hmarker

theorem encode_eq_iff {s t : String} :
    encode s = encode t ↔ withBreaks marker s.toList = withBreaks marker t.toList := by
  rw [← String.toList_inj, toList_encode, toList_encode]
  constructor
  · intro h
    have hvalue := congrArg (unescape letters) h
    rw [unescape_escaped, unescape_escaped] at hvalue
    exact Option.some.inj hvalue
  · intro h
    rw [h]

theorem exists_legible (s : String) :
    ∃ t : String, Legible t.toList ∧ encode t = encode s ∧
      withBreaks ['\n'] t.toList = withMarks ['\n'] (withBreaks marker s.toList) := by
  have hmarker : ∀ b ∈ lineBreaks, b ∉ marker := by simp [lineBreaks, marker]
  have hcopy : ∀ b ∈ lineBreaks, b ∉ withBreaks marker s.toList := fun b hb =>
    lineBreak_notMem_withBreaks hb (hmarker b hb) s.toList
  have hbreaks := withBreaks_withMarks hcopy
  refine ⟨String.ofList (withMarks ['\n'] (withBreaks marker s.toList)), ?_, ?_, ?_⟩
  · rw [String.toList_ofList, ← withMarks_withBreaks_iff, hbreaks, hbreaks, withMarks_self]
  · rw [encode_eq_iff, String.toList_ofList, hbreaks, withMarks_self]
  · rw [String.toList_ofList, hbreaks]

/-- Legible templates have the same copy exactly if they differ in nothing but the spelling of their
line breaks; any other template shares its copy with a legible one that differs in more. -/
theorem encode_tells_legible_apart :
    (∀ s t : String, Legible s.toList → Legible t.toList →
      (encode s = encode t ↔ withBreaks ['\n'] s.toList = withBreaks ['\n'] t.toList)) ∧
    ∀ s : String, ¬ Legible s.toList → ∃ t : String, Legible t.toList ∧ encode t = encode s ∧
      withBreaks ['\n'] t.toList ≠ withBreaks ['\n'] s.toList := by
  constructor
  · intro s t hs ht
    rw [encode_eq_iff]
    constructor
    · intro h
      rw [← (withMarks_withBreaks_iff s.toList).2 hs, h, (withMarks_withBreaks_iff t.toList).2 ht]
    · intro h
      rw [withBreaks_eq_flatMap, h, ← withBreaks_eq_flatMap]
  · intro s hs
    obtain ⟨t, ht, hcopy, hread⟩ := exists_legible s
    refine ⟨t, ht, hcopy, fun h => hs ?_⟩
    rw [← withMarks_withBreaks_iff, ← hread, h]

theorem encode_tells_legible_apart_continued :
    Legible "\r\nLB!".toList ∧ Legible "\nLB!".toList ∧
      (encode "\r\nLB!" = encode "\nLB!" ↔
        withBreaks ['\n'] "\r\nLB!".toList = withBreaks ['\n'] "\nLB!".toList) := by
  have hreturn : Legible "\r\nLB!".toList := by decide
  have hnewline : Legible "\nLB!".toList := by decide
  exact ⟨hreturn, hnewline, encode_tells_legible_apart.1 _ _ hreturn hnewline⟩

/-- Two templates without the marker that have the same copy, though their line breaks stand at
different places. -/
theorem encode_ambiguous_without_marker :
    ¬ ∀ s t : String, ¬ marker <:+: s.toList → ¬ marker <:+: t.toList → encode s = encode t →
      withBreaks ['\n'] s.toList = withBreaks ['\n'] t.toList := by
  intro h
  have hbefore : ¬ marker <:+: "!LB\n".toList := by decide
  have hafter : ¬ marker <:+: "\nLB!".toList := by decide
  have hcopy : encode "!LB\n" = encode "\nLB!" := by decide
  have hbreaks : withBreaks ['\n'] "!LB\n".toList ≠ withBreaks ['\n'] "\nLB!".toList := by decide
  exact hbreaks (h "!LB\n" "\nLB!" hbefore hafter hcopy)

end TemplateCode.Script.DebugCopy
