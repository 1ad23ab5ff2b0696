import TemplateCode.Proofs.Brackets
import TemplateCode.Proofs.CodeTexts
import TemplateCode.Proofs.Shape

/-! The brackets of a render function match if those of each code text of its tree do. What the head
opens the tail closes, and all that is written around code and static text comes in pairs. -/

namespace TemplateCode.Script

theorem ordinary_of_isNamePart {c : Char} (h : isNamePart c = true) : Ordinary c := by
  have hspecial : ['\'', '"', '(', '[', '{', ')', ']', '}'].all (!isNamePart ·) = true := by
    decide
  intro hmem
  have hc := List.all_eq_true.1 hspecial c hmem
  rw [h] at hc
  exact Bool.noConfusion hc

theorem neutral_of_isIdentifier {name : String} (h : isIdentifier name = true) :
    Neutral name.toList :=
  neutral_of_ordinary fun c hc => ordinary_of_isNamePart (isNamePart_of_isIdentifier h c hc)

theorem inside_debugCopy (source : String) :
    Inside .double (DebugCopy.encode source).toList := by
  rw [DebugCopy.encode, String.toList_ofList]
  refine DebugCopy.encodeFrom_of_chars (fun c => ?_) Inside.append (inside_nil .double)
    source.toList
  fun_cases DebugCopy.encodeChar c with
  | case1 | case2 | case3 | case4 | case5 | case6 | case7 => exact fun _ => rfl
  | case8 _ hb hd _ _ _ _ _ => exact inside_char .double hb hd

end TemplateCode.Script

namespace TemplateCode.Render

open TemplateCode.Script TemplateCode.Tree

theorem wrappers_match {w : String × String} (h : w ∈ wrappers) :
    ∃ bracket, Leads w.1.toList ⟨.code, []⟩ ⟨.code, [bracket]⟩ ∧
      Leads w.2.toList ⟨.code, [bracket]⟩ ⟨.code, []⟩ := by
  have hall : wrappers.all (fun w => [')', ']', '}'].any fun bracket =>
      Leads w.1.toList ⟨.code, []⟩ ⟨.code, [bracket]⟩ ∧
        Leads w.2.toList ⟨.code, [bracket]⟩ ⟨.code, []⟩) = true := by decide +kernel
  obtain ⟨bracket, -, hmatch⟩ := List.any_eq_true.1 (List.all_eq_true.1 hall w h)
  exact ⟨bracket, of_decide_eq_true hmatch⟩

theorem kept_neutral {o : Options} (hname : Neutral o.helpersName.toList) :
    Kept o (fun ps => Neutral (assemble ps)) where
  nil := fun _ => rfl
  append hps hqs := by
    rw [assemble_append]
    exact hps.append hqs
  static s := by
    rw [assemble_cons, assemble_nil, List.append_nil]
    exact neutral_statement s
  name := by
    rw [assemble_cons, assemble_nil, List.append_nil]
    exact hname
  wrapped hmem h := by
    obtain ⟨bracket, hbefore, hafter⟩ := wrappers_match hmem
    simpa [raw, Piece.written] using Neutral.between hbefore h hafter

/-- Reading a fragment of the text around a body. Names are part of the code, and the copy of the
template stands between double quotes; what they say does not matter. -/
def readFragment (p : Position) : Fragment → Option Position
  | .fixed text => text.toList.foldlM readChar p
  | .helpersName | .modelName => if p.mode = .code then some p else none
  | .template => if p.mode = .literal .double then some p else none

def LinesLead (lines : List Line) (p q : Position) : Prop :=
  (lines.flatMap Line.fragments).foldlM readFragment p = some q

instance (lines : List Line) (p q : Position) : Decidable (LinesLead lines p q) :=
  inferInstanceAs (Decidable (_ = _))

def brace (isThere : Bool) : List Char := if isThere then ['}'] else []

def leftOpen (o : Options) : List Char :=
  (if o.asHelper then [] else brace o.useWith) ++ brace o.debug

section Valid

variable {o : Options} (hv : o.validate = .ok ())

include hv

theorem leads_fragment {fragment : Fragment} {p q : Position}
    (h : readFragment p fragment = some q) : Leads (fragment.text o).toList p q := by
  obtain ⟨hhelpers, hmodel⟩ := isIdentifier_of_validate hv
  obtain ⟨mode, due⟩ := p
  cases fragment with
  | fixed text => exact h
  | helpersName =>
    obtain ⟨rfl, hq⟩ := Option.ite_none_right_eq_some.1 h
    cases hq
    exact neutral_of_isIdentifier hhelpers due
  | modelName =>
    obtain ⟨rfl, hq⟩ := Option.ite_none_right_eq_some.1 h
    cases hq
    exact neutral_of_isIdentifier hmodel due
  | template =>
    obtain ⟨rfl, hq⟩ := Option.ite_none_right_eq_some.1 h
    cases hq
    exact inside_debugCopy (o.source.getD "") due

theorem leads_writeLines {lines : List Line} {p q : Position} (h : LinesLead lines p q) :
    Leads (writeLines o lines).toList p q := by
  rw [LinesLead] at h
  rw [writeLines]
  generalize lines.flatMap Line.fragments = fragments at h
  induction fragments generalizing p with
  | nil =>
    cases h
    rfl
  | cons fragment fragments ih =>
    rw [List.foldlM_cons] at h
    obtain ⟨between, hfragment, hrest⟩ := Option.bind_eq_some_iff.1 h
    rw [List.map_cons, String.join_cons, String.toList_append]
    exact (leads_fragment hv hfragment).append (ih hrest)

theorem neutral_writeLines {lines : List Line} (h : LinesLead lines ⟨.code, []⟩ ⟨.code, []⟩) :
    Neutral (writeLines o lines).toList := fun due => (leads_writeLines hv h).frame due

theorem leads_including_open {lines : List Line} (h : LinesLead lines ⟨.code, []⟩ ⟨.code, ['}']⟩)
    (isThere : Bool) (due : List Char) :
    Leads (writeLines o (including isThere lines)).toList ⟨.code, due⟩
      ⟨.code, brace isThere ++ due⟩ := by
  cases isThere with
  | true => exact (leads_writeLines hv h).frame due
  | false => rfl

theorem leads_including_close {lines : List Line} (h : LinesLead lines ⟨.code, ['}']⟩ ⟨.code, []⟩)
    (isThere : Bool) (due : List Char) :
    Leads (writeLines o (including isThere lines)).toList ⟨.code, brace isThere ++ due⟩
      ⟨.code, due⟩ := by
  cases isThere with
  | true => exact (leads_writeLines hv h).frame due
  | false => rfl

theorem leads_front (due : List Char) :
    Leads (front o).toList ⟨.code, due⟩ ⟨.code, leftOpen o ++ due⟩ := by
  have htry : LinesLead [tryLine] ⟨.code, []⟩ ⟨.code, ['}']⟩ := by decide +kernel
  have hdebug := leads_including_open hv htry o.debug due
  rw [front, frontLines, leftOpen]
  split
  · rw [helperHeadLines, writeLines_append, String.toList_append]
    exact hdebug.neutral (neutral_writeLines hv (by decide +kernel))
  · have hwith : LinesLead [withLine] ⟨.code, []⟩ ⟨.code, ['}']⟩ := by decide +kernel
    rw [headLines, writeLines_append, writeLines_append, String.toList_append,
      String.toList_append, List.append_assoc (brace o.useWith)]
    exact (hdebug.neutral (neutral_writeLines hv (by decide +kernel))).append
      (leads_including_open hv hwith o.useWith _)

theorem leads_back (due : List Char) :
    Leads (back o).toList ⟨.code, leftOpen o ++ due⟩ ⟨.code, due⟩ := by
  have hcatch : LinesLead catchLines ⟨.code, ['}']⟩ ⟨.code, []⟩ := by decide +kernel
  have hdebug := leads_including_close hv hcatch o.debug due
  rw [back, backLines, leftOpen]
  split
  · exact hdebug
  · have hend : LinesLead [endLine] ⟨.code, ['}']⟩ ⟨.code, []⟩ := by decide +kernel
    have hresult :
        Neutral (writeLines o (if o.simple then simpleResult else hookedResult)).toList := by
      split <;> exact neutral_writeLines hv (by decide +kernel)
    rw [tailLines, writeLines_append, writeLines_append, String.toList_append,
      String.toList_append, List.append_assoc (brace o.useWith)]
    exact ((hresult _).append (leads_including_close hv hend o.useWith _)).append hdebug

end Valid

/-- The source of a tree is balanced, provided that every code text of the tree is balanced by
itself and has no quotes. -/
theorem balanced_generate {o : Options} (hv : o.validate = .ok ()) {tree : Node}
    (hcode : ∀ s ∈ codeTexts none tree,
      '\'' ∉ s.toList ∧ '"' ∉ s.toList ∧ Balanced s.toList) :
    ∃ source, generate o tree = .ok source ∧ Balanced source.toList := by
  have hname := (isIdentifier_of_validate hv).1
  have hbare : AllCode Bare (pieces o none tree) := by
    have hnameBare : Bare o.helpersName.toList :=
      ⟨notMem_of_isIdentifier hname (by decide), notMem_of_isIdentifier hname (by decide)⟩
    refine (kept_allCode hnameBare (by decide)).pieces none tree fun s hs => ?_
    exact allCode_code ⟨(hcode s hs).1, (hcode s hs).2.1⟩
  have hruns := hbare.codeRuns (by decide) Bare.append
  have hneutral : Neutral (assemble (pieces o none tree)) := by
    refine (kept_neutral (neutral_of_isIdentifier hname)).pieces none tree fun s hs => ?_
    simpa [raw, Piece.written] using neutral_of_balanced (hcode s hs).2.2
  refine ⟨_, generate_eq_layout hv fun run hrun hopener => ?_, ?_⟩
  · exact (hruns run hrun).1 (hopener.subset quote_mem_opener)
  · rw [String.toList_ofList, balanced_collapse_iff]
    exact ((leads_front hv []).append (neutral_layout hruns hneutral _)).append (leads_back hv [])

def lopsided : Node :=
  .program [.text "')]\\", .block [.text "for(var i in list)"]
    [.markup (.dynamic [.expression [.text "tags[i]"]])
      [.markupAttribute [.text r"{"] [.explicitExpression [.text "f(i)"]] (some '(')]
      [.text "\n]'"] false false] []]

def lopsidedOptions : Options :=
  ⟨true, true, false, false, true, "html", "model", some r#"')]\@for(var i in list){"]'"#⟩

theorem balanced_generate_lopsided :
    (∀ s ∈ codeTexts none lopsided,
      '\'' ∉ s.toList ∧ '"' ∉ s.toList ∧ Balanced s.toList) ∧
      ∃ source, generate lopsidedOptions lopsided = .ok source ∧ Balanced source.toList := by
  have hcode : ∀ s ∈ codeTexts none lopsided,
      '\'' ∉ s.toList ∧ '"' ∉ s.toList ∧ Balanced s.toList := by decide +kernel
  exact ⟨hcode, balanced_generate (by decide) hcode⟩

end TemplateCode.Render
