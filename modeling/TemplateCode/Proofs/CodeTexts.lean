import TemplateCode.Proofs.Emission

/-! The code of a tree: the texts that are code, and the little that is written around them. What
holds of these and survives wrapping holds of all that the tree is written as. -/

namespace TemplateCode.Render

open TemplateCode.Script TemplateCode.Tree

mutual
def codeTexts (parent : Option Kind) : Node → List String
  | .program body => codeTextsAll .program body
  | .explicitExpression values => codeTextsAll .explicitExpression values
  | .expression values => codeTextsAll .expression values
  | .markup name attributes values _ _ =>
    codeTextsName name ++ codeTextsAll .markup attributes ++ codeTextsAll .markup values
  | .markupAttribute left right _ =>
    codeTextsAll .markupAttribute left ++ codeTextsAll .markupAttribute right
  | .block head values tail =>
    codeTextsAll .block head ++ codeTextsAll .block values ++ codeTextsAll .block tail
  | .indexExpression values => codeTextsAll .indexExpression values
  | .text value => if isContent parent then [] else [value]

def codeTextsName : TagName → List String
  | .literal _ => []
  | .dynamic values => codeTextsAll .markup values

def codeTextsAll (parent : Kind) : List Node → List String
  | [] => []
  | node :: rest => codeTexts (some parent) node ++ codeTextsAll parent rest
end

variable {o : Options}

def wrappers : List (String × String) :=
  [("\n__vbuffer.push(", ");\n"), (".escape(", ").toHtmlString()"), ("(", ")"), (r"{", r"}"),
    ("[", "]")]

/-- A property of pieces that survives whatever is done to the pieces of the children of a node. -/
structure Kept (o : Options) (Q : List Piece → Prop) : Prop where
  nil : Q []
  append {ps qs : List Piece} : Q ps → Q qs → Q (ps ++ qs)
  static (s : List Char) : Q [.static s]
  name : Q [raw o.helpersName]
  wrapped {before after : String} {ps : List Piece} :
    (before, after) ∈ wrappers → Q ps → Q ([raw before] ++ ps ++ [raw after])

namespace Kept

variable {Q : List Piece → Prop}

theorem flatten (hQ : Kept o Q) {pss : List (List Piece)} (h : ∀ ps ∈ pss, Q ps) : Q pss.flatten := by
  induction pss with
  | nil => exact hQ.nil
  | cons ps pss ih =>
    rw [List.forall_mem_cons] at h
    exact hQ.append h.1 (ih h.2)

theorem pushed (hQ : Kept o Q) {inner : List Piece} (h : Q inner) : Q (pushedPieces inner) :=
  hQ.wrapped (by decide) h

theorem escaped (hQ : Kept o Q) {inner : List Piece} (h : Q inner) : Q (escapedPieces o inner) := by
  have hcall : Q ([raw ".escape("] ++ inner ++ [raw ").toHtmlString()"]) :=
    hQ.wrapped (by decide) h
  have hnamed := hQ.append hQ.name hcall
  unfold escapedPieces
  split
  · exact hnamed
  · exact h

mutual
theorem pieces (hQ : Kept o Q) (parent : Option Kind) (node : Node)
    (hcode : ∀ s ∈ codeTexts parent node, Q [raw s]) : Q (pieces o parent node) := by
  match node with
  | .program body =>
    rw [codeTexts] at hcode
    rw [Render.pieces]
    exact hQ.flatten (piecesEach hQ .program body hcode)
  | .explicitExpression values =>
    rw [codeTexts] at hcode
    have hvalues := hQ.flatten (piecesEach hQ .explicitExpression values hcode)
    rw [Render.pieces]
    split
    · exact hQ.pushed (hQ.wrapped (by decide) (hQ.escaped hvalues))
    · exact hQ.wrapped (by decide) hvalues
  | .expression values =>
    rw [codeTexts] at hcode
    have hvalues := hQ.flatten (piecesEach hQ .expression values hcode)
    rw [Render.pieces]
    split
    · exact hQ.pushed (hQ.escaped hvalues)
    · exact hvalues
  | .markup name attributes values isVoid voidClosed =>
    simp only [codeTexts, List.forall_mem_append] at hcode
    obtain ⟨⟨hcname, hcattributes⟩, hcvalues⟩ := hcode
    have htag := piecesName hQ name hcname
    have hattributes := piecesEach hQ .markup attributes hcattributes
    have hvalues := hQ.flatten (piecesEach hQ .markup values hcvalues)
    have hspaced : Q ((Render.piecesEach o .markup attributes).flatMap fun ps => [fixed " "] ++ ps) := by
      refine hQ.flatten (List.forall_mem_map.2 fun ps hps => ?_)
      exact hQ.append (hQ.static _) (hattributes ps hps)
    have hopen := hQ.append (hQ.append (hQ.static "<".toList) htag) hspaced
    rw [Render.pieces]
    refine hQ.append hopen ?_
    split
    · exact hQ.static _
    · have hinside := hQ.append (hQ.append (hQ.static ">".toList) hvalues) (hQ.static "</".toList)
      exact hQ.append (hQ.append hinside htag) (hQ.static _)
  | .markupAttribute left right quote =>
    simp only [codeTexts, List.forall_mem_append] at hcode
    have hleft := hQ.flatten (piecesEach hQ .markupAttribute left hcode.1)
    have hright := hQ.flatten (piecesEach hQ .markupAttribute right hcode.2)
    have hquote : Q (quote.toList.map fun q => .static [q]) := by
      cases quote with
      | none => exact hQ.nil
      | some q => exact hQ.static [q]
    rw [Render.pieces]
    refine hQ.append hleft ?_
    split
    · exact hQ.nil
    · exact hQ.append (hQ.append (hQ.static _) hright) hquote
  | .block head values tail =>
    simp only [codeTexts, List.forall_mem_append] at hcode
    obtain ⟨⟨hchead, hcvalues⟩, hctail⟩ := hcode
    have hhead := hQ.flatten (piecesEach hQ .block head hchead)
    have hvalues := hQ.flatten (piecesEach hQ .block values hcvalues)
    have htail := hQ.flatten (piecesEach hQ .block tail hctail)
    have hbraces : Q ([raw r"{"] ++ (Render.piecesEach o .block values).flatten ++ [raw r"}"]) :=
      hQ.wrapped (by decide) hvalues
    rw [Render.pieces]
    simpa only [List.append_assoc] using hQ.append (hQ.append hhead hbraces) htail
  | .indexExpression values =>
    rw [codeTexts] at hcode
    have hvalues := hQ.flatten (piecesEach hQ .indexExpression values hcode)
    rw [Render.pieces]
    exact hQ.wrapped (by decide) hvalues
  | .text value =>
    rw [codeTexts] at hcode
    rw [Render.pieces]
    split
    · exact hQ.static _
    · next h =>
      rw [if_neg h, List.forall_mem_singleton] at hcode
      exact hcode

theorem piecesName (hQ : Kept o Q) (name : TagName)
    (hcode : ∀ s ∈ codeTextsName name, Q [raw s]) : Q (piecesName o name) := by
  match name with
  | .literal name =>
    rw [Render.piecesName]
    exact hQ.static _
  | .dynamic values =>
    rw [codeTextsName] at hcode
    rw [Render.piecesName]
    exact hQ.flatten (piecesEach hQ .markup values hcode)

theorem piecesEach (hQ : Kept o Q) (parent : Kind) (nodes : List Node)
    (hcode : ∀ s ∈ codeTextsAll parent nodes, Q [raw s]) :
    ∀ ps ∈ piecesEach o parent nodes, Q ps := by
  match nodes with
  | [] =>
    rw [Render.piecesEach]
    nofun
  | node :: rest =>
    rw [codeTextsAll, List.forall_mem_append] at hcode
    rw [Render.piecesEach, List.forall_mem_cons]
    exact ⟨pieces hQ (some parent) node hcode.1, piecesEach hQ parent rest hcode.2⟩
end

end Kept

theorem kept_allCode {P : List Char → Prop} (hname : P o.helpersName.toList)
    (hwrappers : ∀ w ∈ wrappers, P w.1.toList ∧ P w.2.toList) : Kept o (AllCode P) where
  nil := nofun
  append := AllCode.append
  static := allCode_static
  name := allCode_code hname
  wrapped hmem h := h.between (hwrappers _ hmem).1 (hwrappers _ hmem).2

end TemplateCode.Render
