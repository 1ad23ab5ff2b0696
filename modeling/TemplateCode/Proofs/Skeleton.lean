import TemplateCode.Proofs.Collapse
import TemplateCode.Proofs.DebugCopy
import TemplateCode.Proofs.Seam
import TemplateCode.Render.Generate

/-! The text around the body survives condensing whole. It is put together from fixed texts, two
identifiers and the copy of the template, and each of these has no place for a seam and no newline
that a run could swallow. -/

namespace TemplateCode.Script

/-- A text that shortening runs of newlines leaves alone, whatever stands before it. -/
def Solid (text : List Char) : Prop := ∀ broken, squeeze broken text = text

instance : DecidablePred Solid := fun text =>
  inferInstanceAs (Decidable (∀ broken, squeeze broken text = text))

theorem Solid.append {s t : List Char} (hs : Solid s) (ht : Solid t) : Solid (s ++ t) := by
  intro broken
  rw [squeeze_append, hs, ht]

theorem solid_of_newline_notMem {text : List Char} (h : '\n' ∉ text) : Solid text :=
  squeeze_of_newline_notMem h

theorem isNamePart_of_isIdentifier {name : String} (h : isIdentifier name = true) :
    ∀ c ∈ name.toList, isNamePart c = true := by
  rw [isIdentifier] at h
  split at h
  · simp at h
  · next d rest hname =>
    simp only [Bool.and_eq_true, List.all_eq_true] at h
    intro c hc
    rw [hname] at hc
    rcases List.mem_cons.1 hc with rfl | hc
    · have hstart := h.1.1
      simp only [isNameStart, isNamePart, Char.isAlphanum, Bool.or_eq_true] at hstart ⊢
      tauto
    · exact h.1.2 c hc

theorem notMem_of_isIdentifier {name : String} (h : isIdentifier name = true) {c : Char}
    (hc : isNamePart c = false) : c ∉ name.toList := by
  intro hm
  rw [isNamePart_of_isIdentifier h c hm] at hc
  exact Bool.noConfusion hc

namespace DebugCopy

theorem encodeFrom_of_chars {P : List Char → Prop} (hchar : ∀ c, P (encodeChar c))
    (happend : ∀ {s t}, P s → P t → P (s ++ t)) {out : List Char} (hout : P out.reverse)
    (text : List Char) : P (encodeFrom out text) := by
  fun_induction encodeFrom out text with
  | case1 out => exact hout
  | case2 out rest ih =>
    refine ih ?_
    rw [List.reverse_append, List.reverse_reverse]
    exact happend hout (hchar '\n')
  | case3 out c rest _ ih =>
    refine ih ?_
    rw [List.reverse_append, List.reverse_reverse]
    exact happend hout (hchar c)

theorem guarded_encode (source : String) : Guarded (encode source).toList := by
  rw [encode, String.toList_ofList]
  refine encodeFrom_of_chars (fun c => ?_) Guarded.append .nil source.toList
  fun_cases encodeChar c with
  | case1 | case2 | case3 => exact Guarded.nil.escape _
  | case4 | case5 | case6 | case7 => exact guarded_of_quote_notMem (by decide)
  | case8 _ _ _ hq _ _ _ _ => exact Guarded.nil.plain hq

end DebugCopy

end TemplateCode.Script

namespace TemplateCode.Render

open TemplateCode.Script TemplateCode.Tree

def frontLines (o : Options) : List Line := if o.asHelper then helperHeadLines o else headLines o

def backLines (o : Options) : List Line := if o.asHelper then helperTailLines o else tailLines o

def front (o : Options) : String := writeLines o (frontLines o)

def back (o : Options) : String := writeLines o (backLines o)

theorem wrap_eq (o : Options) (s : String) : wrap o s = front o ++ s ++ back o := by
  rw [wrap, front, back, frontLines, backLines]
  split <;> rfl

def openingLines : List Line := tryLine :: startLines ++ withLine :: helperLines

def closingLines : List Line := simpleResult ++ hookedResult ++ endLine :: catchLines

theorem mem_including {condition : Bool} {lines : List Line} {line : Line}
    (h : line ∈ including condition lines) : line ∈ lines := by
  rw [including] at h
  split at h
  · exact h
  · cases h

theorem mem_openingLines {o : Options} {line : Line} (h : line ∈ frontLines o) :
    line ∈ openingLines := by
  rw [frontLines, helperHeadLines, headLines] at h
  simp only [openingLines, List.mem_cons, List.mem_append]
  split at h <;> simp only [List.mem_append] at h
  · rcases h with h | h
    · exact .inl (.inl (List.mem_singleton.1 (mem_including h)))
    · exact .inr (.inr h)
  · rcases h with (h | h) | h
    · exact .inl (.inl (List.mem_singleton.1 (mem_including h)))
    · exact .inl (.inr h)
    · exact .inr (.inl (List.mem_singleton.1 (mem_including h)))

theorem mem_closingLines {o : Options} {line : Line} (h : line ∈ backLines o) :
    line ∈ closingLines := by
  rw [backLines, helperTailLines, tailLines] at h
  simp only [closingLines, List.mem_cons, List.mem_append]
  split at h
  · exact .inr (.inr (mem_including h))
  · simp only [List.mem_append] at h
    rcases h with (h | h) | h
    · split at h
      · exact .inl (.inl h)
      · exact .inl (.inr h)
    · exact .inr (.inl (List.mem_singleton.1 (mem_including h)))
    · exact .inr (.inr (mem_including h))

def Fragment.fixed? : Fragment → Option String
  | .fixed text => some text
  | _ => none

def fixedTexts : List String :=
  ((openingLines ++ closingLines).flatMap Line.fragments).filterMap Fragment.fixed?

theorem fixedTexts_clean : ∀ s ∈ fixedTexts, '\'' ∉ s.toList ∧ Solid s.toList := by
  decide +kernel

theorem writeLines_append (o : Options) (first second : List Line) :
    writeLines o (first ++ second) = writeLines o first ++ writeLines o second := by
  rw [writeLines, List.flatMap_append, List.map_append, String.join_append]
  rfl

section Fragments

variable {P : List Char → Prop} {o : Options} (hnil : P [])
  (happend : ∀ {s t}, P s → P t → P (s ++ t))

include hnil happend

theorem writeLines_of_fragments {lines : List Line}
    (h : ∀ line ∈ lines, ∀ fragment ∈ line.fragments, P (fragment.text o).toList) :
    P (writeLines o lines).toList := by
  have key : ∀ fragments : List Fragment, (∀ fragment ∈ fragments, P (fragment.text o).toList) →
      P (String.join (fragments.map (Fragment.text o))).toList := by
    intro fragments hfragments
    induction fragments with
    | nil => exact hnil
    | cons fragment fragments ih =>
      rw [List.forall_mem_cons] at hfragments
      rw [List.map_cons, String.join_cons, String.toList_append]
      exact happend hfragments.1 (ih hfragments.2)
  refine key _ fun fragment hfragment => ?_
  obtain ⟨line, hline, hmem⟩ := List.mem_flatMap.1 hfragment
  exact h line hline fragment hmem

theorem writeLines_of_parts {lines : List Line}
    (hlines : ∀ line ∈ lines, line ∈ openingLines ++ closingLines)
    (hfixed : ∀ s ∈ fixedTexts, P s.toList) (hhelpers : P o.helpersName.toList)
    (hmodel : ∀ line ∈ lines, .modelName ∈ line.fragments → P o.modelName.toList)
    (hcopy : ∀ line ∈ lines, .template ∈ line.fragments →
      P (DebugCopy.encode (o.source.getD "")).toList) :
    P (writeLines o lines).toList := by
  refine writeLines_of_fragments hnil happend fun line hline fragment hfragment => ?_
  cases fragment with
  | fixed text =>
    refine hfixed text (List.mem_filterMap.2 ⟨.fixed text, ?_, rfl⟩)
    exact List.mem_flatMap.2 ⟨line, hlines line hline, hfragment⟩
  | helpersName => exact hhelpers
  | modelName => exact hmodel line hline hfragment
  | template => exact hcopy line hline hfragment

theorem front_of_parts
    (hparts : ∀ s ∈ o.helpersName :: o.modelName :: fixedTexts, P s.toList) :
    P (front o).toList := by
  rw [List.forall_mem_cons, List.forall_mem_cons] at hparts
  obtain ⟨hhelpers, hmodel, hfixed⟩ := hparts
  have hcopy : ∀ line ∈ openingLines, .template ∉ line.fragments := by decide
  refine writeLines_of_parts hnil happend ?_ hfixed hhelpers (fun _ _ _ => hmodel) ?_
  · exact fun line hline => List.mem_append_left _ (mem_openingLines hline)
  · exact fun line hline hmem => absurd hmem (hcopy line (mem_openingLines hline))

theorem back_of_parts
    (hparts : ∀ s ∈ o.helpersName :: DebugCopy.encode (o.source.getD "") :: fixedTexts,
      P s.toList) :
    P (back o).toList := by
  rw [List.forall_mem_cons, List.forall_mem_cons] at hparts
  obtain ⟨hhelpers, hcopy, hfixed⟩ := hparts
  have hmodel : ∀ line ∈ closingLines, .modelName ∉ line.fragments := by decide
  refine writeLines_of_parts hnil happend ?_ hfixed hhelpers ?_ (fun _ _ _ => hcopy)
  · exact fun line hline => List.mem_append_right _ (mem_closingLines hline)
  · exact fun line hline hmem => absurd hmem (hmodel line (mem_closingLines hline))

end Fragments

theorem front_ends (o : Options) : ends false (front o).toList = true := by
  have hline (lines : List Line) (line : Line) (broken : Bool) :
      ends broken (writeLines o (lines ++ [line])).toList = true := by
    have hlast : writeLines o [line] =
        String.join (([.fixed " "].intercalate line).map (Fragment.text o)) ++ " \n" := by
      simp [writeLines, Line.fragments, Fragment.text]
    rw [writeLines_append, hlast, String.toList_append, String.toList_append, ends_append,
      ends_append]
    rfl
  have hne : frontLines o ≠ [] := by
    rw [frontLines, helperHeadLines, headLines]
    split <;> simp [startLines, helperLines]
  rw [front, ← List.dropLast_append_getLast hne]
  exact hline _ _ _

theorem isIdentifier_of_validate {o : Options} (hv : o.validate = .ok ()) :
    isIdentifier o.helpersName = true ∧ isIdentifier o.modelName = true := by
  rw [Options.validate] at hv
  split_ifs at hv with hh hm
  exact ⟨by simpa using hh, by simpa using hm⟩

section Valid

variable {o : Options} (hv : o.validate = .ok ())

include hv

theorem notMem_front {c : Char} (hname : isNamePart c = false)
    (hfixed : ∀ s ∈ fixedTexts, c ∉ s.toList) : c ∉ (front o).toList := by
  obtain ⟨hh, hm⟩ := isIdentifier_of_validate hv
  refine front_of_parts (P := (c ∉ ·)) List.not_mem_nil ?_ ?_
  · intro s t hs ht
    rw [List.mem_append, not_or]
    exact ⟨hs, ht⟩
  · rw [List.forall_mem_cons, List.forall_mem_cons]
    exact ⟨notMem_of_isIdentifier hh hname, notMem_of_isIdentifier hm hname, hfixed⟩

theorem quote_notMem_front : '\'' ∉ (front o).toList :=
  notMem_front hv (by decide) fun s hs => (fixedTexts_clean s hs).1

theorem solid_front : Solid (front o).toList := by
  obtain ⟨hh, hm⟩ := isIdentifier_of_validate hv
  refine front_of_parts (fun _ => rfl) Solid.append ?_
  rw [List.forall_mem_cons, List.forall_mem_cons]
  exact ⟨solid_of_newline_notMem (notMem_of_isIdentifier hh (by decide)),
    solid_of_newline_notMem (notMem_of_isIdentifier hm (by decide)),
    fun s hs => (fixedTexts_clean s hs).2⟩

theorem solid_back : Solid (back o).toList := by
  obtain ⟨hh, _⟩ := isIdentifier_of_validate hv
  refine back_of_parts (fun _ => rfl) Solid.append ?_
  rw [List.forall_mem_cons, List.forall_mem_cons]
  exact ⟨solid_of_newline_notMem (notMem_of_isIdentifier hh (by decide)),
    solid_of_newline_notMem (DebugCopy.lineBreak_notMem_encode _ _ List.mem_cons_self),
    fun s hs => (fixedTexts_clean s hs).2⟩

theorem guarded_back : Guarded (back o).toList := by
  obtain ⟨hh, _⟩ := isIdentifier_of_validate hv
  refine back_of_parts .nil Guarded.append ?_
  rw [List.forall_mem_cons, List.forall_mem_cons]
  exact ⟨guarded_of_quote_notMem (notMem_of_isIdentifier hh (by decide)),
    DebugCopy.guarded_encode _, fun s hs => guarded_of_quote_notMem (fixedTexts_clean s hs).1⟩

end Valid

theorem generate_eq (o : Options) (tree : Node) :
    generate o tree = o.validate.map fun _ => condense (wrap o (body o tree)) := by
  rw [generate, generateNoting]
  cases o.validate with
  | error e => rfl
  | ok u => rfl

theorem condense_wrap {o : Options} (hv : o.validate = .ok ()) (s : String) :
    ∃ mid, Cut s.toList mid ∧ condense (wrap o s) = wrap o (String.ofList (squeeze true mid)) := by
  have hcut := cut_join (wrap o s).toList
  rw [wrap_eq, String.toList_append, String.toList_append, List.append_assoc] at hcut
  obtain ⟨rest, hrest, hback⟩ := hcut.left (quote_notMem_front hv)
  obtain ⟨mid, rfl, hmid⟩ := hback.right (guarded_back hv)
  refine ⟨mid, hmid, ?_⟩
  rw [condense, wrap_eq, wrap_eq, ← String.toList_inj]
  simp only [String.toList_ofList, String.toList_append, List.append_assoc]
  rw [hrest, collapse_eq_squeeze, squeeze_append, squeeze_append, solid_front hv, solid_back hv,
    front_ends]

/-- Generation fails exactly as the options do, and otherwise writes the head, what condensing makes
of the body, and the tail. -/
theorem generate_keeps_skeleton (o : Options) (tree : Node) :
    (∀ e, generate o tree = .error e ↔ o.validate = .error e) ∧
      (o.validate = .ok () → ∃ mid, Cut (body o tree).toList mid ∧
        generate o tree = .ok
          (if o.asHelper then helperHead o ++ String.ofList (squeeze true mid) ++ helperTail o
          else head o ++ String.ofList (squeeze true mid) ++ tail o)) := by
  rw [generate_eq]
  cases hv : o.validate with
  | error e => exact ⟨fun e' => by simp [Except.map], nofun⟩
  | ok u =>
    refine ⟨fun e => ⟨nofun, nofun⟩, fun _ => ?_⟩
    obtain ⟨mid, hcut, hmid⟩ := condense_wrap hv (body o tree)
    exact ⟨mid, hcut, congrArg Except.ok hmid⟩

def pushingTemplate : Options :=
  Options.default.choose (.debug "__vbuffer.push('a');\n__vbuffer.push('b');")

theorem generate_keeps_skeleton_pushing :
    pushingTemplate.validate = .ok () ∧
      ∃ mid, generate pushingTemplate (.text "__vbuffer.push('a');\n__vbuffer.push('b')") =
        .ok (head pushingTemplate ++ mid ++ tail pushingTemplate) := by
  have hv : pushingTemplate.validate = .ok () := by decide
  obtain ⟨mid, _, hmid⟩ := (generate_keeps_skeleton pushingTemplate
    (.text "__vbuffer.push('a');\n__vbuffer.push('b')")).2 hv
  exact ⟨hv, _, hmid⟩

end TemplateCode.Render
