import TemplateCode.Proofs.CodeTexts
import TemplateCode.Proofs.Erasure
import TemplateCode.Proofs.Shape

/-! Static text cannot become code. Trees that agree once their static text is masked have the same
pieces up to static texts, so their sources agree once the bodies of literals are erased. -/

namespace TemplateCode.Render

open TemplateCode.Script TemplateCode.Tree

mutual
/-- A tree without its static text: the values of texts under content parents, the tag names as
written, and which character quotes an attribute. -/
def mask (parent : Option Kind) : Node → Node
  | .program body => .program (maskAll .program body)
  | .explicitExpression values => .explicitExpression (maskAll .explicitExpression values)
  | .expression values => .expression (maskAll .expression values)
  | .markup name attributes values isVoid voidClosed =>
    .markup (maskName name) (maskAll .markup attributes) (maskAll .markup values) isVoid voidClosed
  | .markupAttribute left right quote =>
    .markupAttribute (maskAll .markupAttribute left) (maskAll .markupAttribute right)
      (quote.map fun _ => '"')
  | .block head values tail =>
    .block (maskAll .block head) (maskAll .block values) (maskAll .block tail)
  | .indexExpression values => .indexExpression (maskAll .indexExpression values)
  | .text value => .text (if isContent parent then "" else value)

def maskName : TagName → TagName
  | .literal _ => .literal ""
  | .dynamic values => .dynamic (maskAll .markup values)

def maskAll (parent : Kind) : List Node → List Node
  | [] => []
  | node :: rest => mask (some parent) node :: maskAll parent rest
end

section Mask

variable (o : Options)

theorem maskAll_isEmpty (parent : Kind) (nodes : List Node) :
    (maskAll parent nodes).isEmpty = nodes.isEmpty := by
  cases nodes <;> rfl

theorem hide_escapedPieces (inner : List Piece) :
    (escapedPieces o inner).map Piece.hide = escapedPieces o (inner.map Piece.hide) := by
  unfold escapedPieces
  split
  · simp [raw, Piece.hide]
  · rfl

theorem hide_pushedPieces (inner : List Piece) :
    (pushedPieces inner).map Piece.hide = pushedPieces (inner.map Piece.hide) := by
  simp [pushedPieces, raw, Piece.hide]

theorem hide_spaced (p : Piece) (pss : List (List Piece)) :
    (pss.flatMap fun ps => [p] ++ ps).map Piece.hide =
      (pss.map (List.map Piece.hide)).flatMap fun ps => [p.hide] ++ ps := by
  simp [List.map_flatMap, List.flatMap_map]

mutual
theorem hide_pieces_mask (parent : Option Kind) (node : Node) :
    (pieces o parent (mask parent node)).map Piece.hide = (pieces o parent node).map Piece.hide := by
  match node with
  | .program body =>
    have hbody := hide_piecesEach_mask .program body
    simp only [mask, pieces, List.map_flatten, hbody]
  | .explicitExpression values =>
    have hvalues := hide_piecesEach_mask .explicitExpression values
    simp only [mask, pieces, apply_ite (List.map Piece.hide), hide_pushedPieces, hide_escapedPieces,
      List.map_append, List.map_flatten, hvalues]
  | .expression values =>
    have hvalues := hide_piecesEach_mask .expression values
    simp only [mask, pieces, apply_ite (List.map Piece.hide), hide_pushedPieces, hide_escapedPieces,
      List.map_flatten, hvalues]
  | .markup name attributes values isVoid voidClosed =>
    have hname := hide_piecesName_mask name
    have hattributes := hide_piecesEach_mask .markup attributes
    have hvalues := hide_piecesEach_mask .markup values
    simp only [mask, pieces, apply_ite (List.map Piece.hide), List.map_append, hide_spaced,
      List.map_flatten, hname, hattributes, hvalues]
  | .markupAttribute left right quote =>
    have hleft := hide_piecesEach_mask .markupAttribute left
    have hright := hide_piecesEach_mask .markupAttribute right
    simp only [mask, pieces, maskAll_isEmpty, Option.isNone_map, apply_ite (List.map Piece.hide),
      List.map_append, List.map_flatten, hleft, hright]
    cases quote with
    | none => rfl
    | some q => rfl
  | .block head values tail =>
    have hhead := hide_piecesEach_mask .block head
    have hvalues := hide_piecesEach_mask .block values
    have htail := hide_piecesEach_mask .block tail
    simp only [mask, pieces, List.map_append, List.map_flatten, hhead, hvalues, htail]
  | .indexExpression values =>
    have hvalues := hide_piecesEach_mask .indexExpression values
    simp only [mask, pieces, List.map_append, List.map_flatten, hvalues]
  | .text value =>
    simp only [mask, pieces]
    split <;> rfl

theorem hide_piecesName_mask (name : TagName) :
    (piecesName o (maskName name)).map Piece.hide = (piecesName o name).map Piece.hide := by
  match name with
  | .literal name => rfl
  | .dynamic values =>
    have hvalues := hide_piecesEach_mask .markup values
    simp only [maskName, piecesName, List.map_flatten, hvalues]

theorem hide_piecesEach_mask (parent : Kind) (nodes : List Node) :
    (piecesEach o parent (maskAll parent nodes)).map (List.map Piece.hide) =
      (piecesEach o parent nodes).map (List.map Piece.hide) := by
  match nodes with
  | [] => rfl
  | node :: rest =>
    have hnode := hide_pieces_mask (some parent) node
    have hrest := hide_piecesEach_mask parent rest
    simp only [maskAll, piecesEach, List.map_cons, hnode, hrest]
end

end Mask

variable {o : Options}

theorem quiet_pieces (hname : Unquoted o.helpersName.toList) (parent : Option Kind) (node : Node)
    (hcode : ∀ s ∈ codeTexts parent node, Unquoted s.toList) : Quiet (pieces o parent node) :=
  (kept_allCode hname (by decide)).pieces parent node fun s hs => allCode_code (hcode s hs)

theorem unquoted_front (hv : o.validate = .ok ()) : Unquoted (front o).toList :=
  ⟨quote_notMem_front hv, notMem_front hv (by decide) (by decide +kernel)⟩

theorem unquoted_helpersName (hv : o.validate = .ok ()) :
    Unquoted o.helpersName.toList :=
  have hname := (isIdentifier_of_validate hv).1
  ⟨notMem_of_isIdentifier hname (by decide), notMem_of_isIdentifier hname (by decide)⟩

theorem no_opener_of_unquoted {run : List Char} (h : Unquoted run) : ¬ Push.opener <:+: run :=
  fun hopener => h.1 (hopener.subset quote_mem_opener)

theorem erase_generated (hv : o.validate = .ok ()) {tree : Node}
    (hquiet : Quiet (pieces o none tree)) :
    ∃ source, generate o tree = .ok source ∧
      eraseLiterals source = String.ofList (erase false (collapse
        ((front o).toList ++ layout ((pieces o none tree).map Piece.hide) ++ (back o).toList))) := by
  have hruns : ∀ run ∈ codeRuns (pieces o none tree), ¬ Push.opener <:+: run :=
    fun run hrun => no_opener_of_unquoted (hquiet.codeRuns run hrun)
  refine ⟨condense (wrap o (body o tree)), ?_, ?_⟩
  · rw [generate_eq, hv]
    rfl
  · rw [eraseLiterals, condense, String.toList_ofList, join_wrap_body hv hruns,
      erase_collapse_layout (unquoted_front hv) hquiet]

/-- Trees that differ in static text only have the same code around their literals. -/
theorem eraseLiterals_generate_eq (hv : o.validate = .ok ()) {t t' : Node}
    (hmask : mask none t = mask none t')
    (hcode : ∀ s ∈ codeTexts none t, '\'' ∉ s.toList ∧ '\\' ∉ s.toList) :
    ∃ source source', generate o t = .ok source ∧ generate o t' = .ok source' ∧
      eraseLiterals source = eraseLiterals source' := by
  have hhidden : (pieces o none t).map Piece.hide = (pieces o none t').map Piece.hide := by
    rw [← hide_pieces_mask, hmask, hide_pieces_mask]
  have hquiet : Quiet (pieces o none t) := quiet_pieces (unquoted_helpersName hv) none t hcode
  -- The code of the two trees is the same, so it is enough that one of them is quiet.
  have hquiet' : Quiet (pieces o none t') := by
    intro c hc
    rw [← mem_hide, ← hhidden, mem_hide] at hc
    exact hquiet c hc
  obtain ⟨source, hsource, herased⟩ := erase_generated hv hquiet
  obtain ⟨source', hsource', herased'⟩ := erase_generated hv hquiet'
  refine ⟨source, source', hsource, hsource', ?_⟩
  rw [herased, herased', hhidden]

def labelled (tag label : String) (quote : Char) : Node :=
  .program [.markup (.literal tag) [.markupAttribute [.text "id"] [.text label] (some quote)]
    [.text label, .expression [.text "model.name"]] false false]

theorem eraseLiterals_generate_labelled :
    mask none (labelled "p" "');\n__vbuffer.push('" '\'') = mask none (labelled "\\" "\\" '"') ∧
      ∃ source source',
        generate Options.default (labelled "p" "');\n__vbuffer.push('" '\'') = .ok source ∧
        generate Options.default (labelled "\\" "\\" '"') = .ok source' ∧
        eraseLiterals source = eraseLiterals source' := by
  have hmask : mask none (labelled "p" "');\n__vbuffer.push('" '\'') =
      mask none (labelled "\\" "\\" '"') := rfl
  exact ⟨hmask, eraseLiterals_generate_eq (by decide) hmask (by decide +kernel)⟩

end TemplateCode.Render
