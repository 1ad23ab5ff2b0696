import TemplateCode.Proofs.Layout
import TemplateCode.Render.Walker

/-! What a tree says, in source order: static texts to be pushed and code to be run. The walk writes
exactly these pieces, one after the other. -/

namespace TemplateCode.Render

open TemplateCode.Script TemplateCode.Tree

def fixed (s : String) : Piece := .static s.toList

def raw (s : String) : Piece := .code s.toList

def escapedPieces (o : Options) (inner : List Piece) : List Piece :=
  if o.htmlEscape then
    [raw o.helpersName, raw ".escape("] ++ inner ++ [raw ").toHtmlString()"]
  else inner

def pushedPieces (inner : List Piece) : List Piece :=
  [raw "\n__vbuffer.push("] ++ inner ++ [raw ");\n"]

mutual
def pieces (o : Options) (parent : Option Kind) : Node → List Piece
  | .program body => (piecesEach o .program body).flatten
  | .explicitExpression values =>
    let inner := (piecesEach o .explicitExpression values).flatten
    if isContent parent then pushedPieces ([raw "("] ++ escapedPieces o inner ++ [raw ")"])
    else [raw "("] ++ inner ++ [raw ")"]
  | .expression values =>
    let inner := (piecesEach o .expression values).flatten
    if isContent parent then pushedPieces (escapedPieces o inner) else inner
  | .markup name attributes values isVoid voidClosed =>
    [fixed "<"] ++ piecesName o name ++
      (piecesEach o .markup attributes).flatMap (fun ps => [fixed " "] ++ ps) ++
      if isVoid then [fixed (if voidClosed then "/>" else ">")]
      else
        [fixed ">"] ++ (piecesEach o .markup values).flatten ++ [fixed "</"] ++ piecesName o name ++
          [fixed ">"]
  | .markupAttribute left right quote =>
    (piecesEach o .markupAttribute left).flatten ++
      if right.isEmpty && quote.isNone then []
      else
        [.static ('=' :: quote.toList)] ++ (piecesEach o .markupAttribute right).flatten ++
          quote.toList.map (fun q => .static [q])
  | .block head values tail =>
    (piecesEach o .block head).flatten ++ [raw r"{"] ++ (piecesEach o .block values).flatten ++
      [raw r"}"] ++ (piecesEach o .block tail).flatten
  | .indexExpression values =>
    [raw "["] ++ (piecesEach o .indexExpression values).flatten ++ [raw "]"]
  | .text value => [if isContent parent then fixed value else raw value]

def piecesName (o : Options) : TagName → List Piece
  | .literal name => [fixed name]
  | .dynamic values => (piecesEach o .markup values).flatten

def piecesEach (o : Options) (parent : Kind) : List Node → List (List Piece)
  | [] => []
  | node :: rest => pieces o (some parent) node :: piecesEach o parent rest
end

theorem toList_text (s : String) : (Push.text s).toList = (fixed s).written := Push.toList_text s

theorem toList_literal_fixed {s : String} (h : Literal.encoded s.toList = s.toList) :
    (Push.literal s).toList = (fixed s).written := by
  show _ = statement s.toList
  rw [Push.toList_literal, statement, h]

theorem toList_join_flatten {outs : List String} {pss : List (List Piece)}
    (h : outs.map String.toList = pss.map assemble) :
    (String.join outs).toList = assemble pss.flatten := by
  rw [String.toList_join, List.flatMap_def, h, assemble_flatten]

theorem toList_escaped (o : Options) {code : String} {ps : List Piece}
    (h : code.toList = assemble ps) : (escaped o code).toList = assemble (escapedPieces o ps) := by
  unfold escaped escapedPieces
  split
  · simp [h, raw, Piece.written]
  · exact h

theorem toList_pushed {code : String} {ps : List Piece} (h : code.toList = assemble ps) :
    (Push.expression code).toList = assemble (pushedPieces ps) := by
  unfold Push.expression pushedPieces
  simp [h, raw, Piece.written]

theorem toList_parenthesized {code : String} {ps : List Piece} (h : code.toList = assemble ps) :
    ("(" ++ code ++ ")").toList = assemble ([raw "("] ++ ps ++ [raw ")"]) := by
  simp [h, raw, Piece.written]

theorem append_intercalate (sep x : List Char) (xs : List (List Char)) :
    sep ++ sep.intercalate (x :: xs) = (x :: xs).flatMap (sep ++ ·) := by
  induction xs generalizing x with
  | nil => simp
  | cons y ys ih =>
    rw [List.intercalate_cons_cons, List.append_assoc x, ih y, ← List.append_assoc]
    rfl

theorem assemble_flatMap_cons (p : Piece) (pss : List (List Piece)) :
    assemble (pss.flatMap fun ps => [p] ++ ps) = (pss.map assemble).flatMap (p.written ++ ·) := by
  induction pss with
  | nil => rfl
  | cons ps pss ih =>
    rw [List.flatMap_cons, assemble_append, ih]
    simp

theorem toList_openTag {name : String} {attributes : List String} {ps : List Piece}
    {pss : List (List Piece)} (hname : name.toList = assemble ps)
    (hattributes : attributes.map String.toList = pss.map assemble) :
    (openTag name attributes).toList =
      assemble ([fixed "<"] ++ ps ++ pss.flatMap (fun qs => [fixed " "] ++ qs)) := by
  have hopen := toList_literal_fixed (show Literal.encoded "<".toList = "<".toList by decide)
  have hblank := toList_literal_fixed (show Literal.encoded " ".toList = " ".toList by decide)
  have hspaced : (if attributes.isEmpty then "" else Push.literal " ").toList ++
      (fixed " ").written.intercalate (attributes.map String.toList) =
      assemble (pss.flatMap fun qs => [fixed " "] ++ qs) := by
    rw [assemble_flatMap_cons, ← hattributes]
    cases attributes with
    | nil => rfl
    | cons a as =>
      rw [List.isEmpty_cons, if_neg Bool.false_ne_true, hblank]
      exact append_intercalate _ a.toList (as.map String.toList)
  rw [openTag, String.toList_append, String.toList_append, String.toList_append,
    String.toList_intercalate, hopen, hname, hblank, List.append_assoc, hspaced]
  simp

theorem toList_voidEnd (closed : Bool) :
    (voidEnd closed).toList = (fixed (if closed then "/>" else ">")).written := by
  cases closed with
  | false => exact toList_literal_fixed (by decide)
  | true => exact toList_literal_fixed (by decide)

theorem toList_element {name values : String} {attributes : List String} {ps qs : List Piece}
    {pss : List (List Piece)} (hname : name.toList = assemble ps)
    (hattributes : attributes.map String.toList = pss.map assemble)
    (hvalues : values.toList = assemble qs) :
    (element name attributes values).toList =
      assemble ([fixed "<"] ++ ps ++ pss.flatMap (fun qs => [fixed " "] ++ qs) ++
        ([fixed ">"] ++ qs ++ [fixed "</"] ++ ps ++ [fixed ">"])) := by
  have hend := toList_literal_fixed (show Literal.encoded ">".toList = ">".toList by decide)
  have hclose := toList_literal_fixed (show Literal.encoded "</".toList = "</".toList by decide)
  simp only [element, String.toList_append, toList_openTag hname hattributes, hend, hclose, hname,
    hvalues]
  simp

theorem toList_attributeValue (quote : Option Char) {right : String} {ps : List Piece}
    (h : right.toList = assemble ps) :
    (attributeValue quote right).toList =
      assemble ([.static ('=' :: quote.toList)] ++ ps ++ quote.toList.map fun q => .static [q]) := by
  cases quote with
  | none =>
    have heq := toList_literal_fixed (show Literal.encoded "=".toList = "=".toList by decide)
    rw [attributeValue, String.toList_append, heq, h]
    simp [fixed]
  | some q =>
    have hmark : (Literal.encode (String.singleton q)).toList = Literal.encoded [q] := by
      rw [Literal.toList_encode, String.toList_singleton]
    have hequals : "=".toList = Literal.encoded ['='] := by decide
    simp only [attributeValue, String.toList_append, Push.toList_literal, hmark, hequals, h]
    simp [Piece.written, statement]

variable {σ : Type} (o : Options) (note : Note σ)

mutual
theorem walk_writes (parent : Option Kind) (node : Node) (w : Walker σ) :
    ((walk o note parent node).run w).1.toList = assemble (pieces o parent node) := by
  match node with
  | .program body =>
    have hbody := fun w => toList_join_flatten (walkAll_writes .program body w)
    show (String.join ((walkAll o note .program body).run _).1).toList = _
    rw [hbody, pieces]
  | .explicitExpression values =>
    have hvalues := fun w => toList_join_flatten (walkAll_writes .explicitExpression values w)
    show (explicitExpression o (isContent parent)
      (String.join ((walkAll o note .explicitExpression values).run _).1)).toList = _
    rw [explicitExpression, pieces]
    split
    · exact toList_pushed (toList_parenthesized (toList_escaped o (hvalues _)))
    · exact toList_parenthesized (hvalues _)
  | .expression values =>
    have hvalues := fun w => toList_join_flatten (walkAll_writes .expression values w)
    show (expression o (isContent parent)
      (String.join ((walkAll o note .expression values).run _).1)).toList = _
    rw [expression, pieces]
    split
    · exact toList_pushed (toList_escaped o (hvalues _))
    · exact hvalues _
  | .markup name attributes values isVoid voidClosed =>
    have hname := fun w => walkName_writes name w
    have hattributes := fun w => walkAll_writes .markup attributes w
    have hvalues := fun w => toList_join_flatten (walkAll_writes .markup values w)
    rw [pieces]
    cases isVoid with
    | true =>
      show (openTag ((walkName o note name).run _).1 ((walkAll o note .markup attributes).run _).1 ++
        voidEnd voidClosed).toList = _
      rw [String.toList_append, toList_openTag (hname _) (hattributes _), toList_voidEnd]
      simp
    | false =>
      show (element ((walkName o note name).run _).1 ((walkAll o note .markup attributes).run _).1
        (String.join ((walkAll o note .markup values).run _).1)).toList = _
      rw [toList_element (hname _) (hattributes _) (hvalues _)]
      simp
  | .markupAttribute left right quote =>
    have hleft := fun w => toList_join_flatten (walkAll_writes .markupAttribute left w)
    have hright := fun w => toList_join_flatten (walkAll_writes .markupAttribute right w)
    rw [walk, pieces]
    cases right.isEmpty && quote.isNone with
    | true =>
      show (String.join ((walkAll o note .markupAttribute left).run _).1).toList = _
      rw [hleft]
      simp
    | false =>
      show (String.join ((walkAll o note .markupAttribute left).run _).1 ++ attributeValue quote
        (String.join ((walkAll o note .markupAttribute right).run _).1)).toList = _
      rw [String.toList_append, hleft, toList_attributeValue quote (hright _)]
      simp
  | .block head values tail =>
    have hhead := fun w => toList_join_flatten (walkAll_writes .block head w)
    have hvalues := fun w => toList_join_flatten (walkAll_writes .block values w)
    have htail := fun w => toList_join_flatten (walkAll_writes .block tail w)
    show (String.join ((walkAll o note .block head).run _).1 ++ r"{" ++
      String.join ((walkAll o note .block values).run _).1 ++ r"}" ++
      String.join ((walkAll o note .block tail).run _).1).toList = _
    simp only [String.toList_append, hhead, hvalues, htail, pieces, assemble_append]
    rfl
  | .indexExpression values =>
    have hvalues := fun w => toList_join_flatten (walkAll_writes .indexExpression values w)
    show ("[" ++ String.join ((walkAll o note .indexExpression values).run _).1 ++ "]").toList = _
    simp only [String.toList_append, hvalues, pieces, assemble_append]
    rfl
  | .text value =>
    show (text (isContent parent) value).toList = _
    rw [text, pieces]
    split
    · simp [toList_text]
    · simp [raw, Piece.written]

theorem walkName_writes (name : TagName) (w : Walker σ) :
    ((walkName o note name).run w).1.toList = assemble (piecesName o name) := by
  match name with
  | .literal name =>
    show (Push.text name).toList = _
    rw [toList_text, piecesName]
    simp
  | .dynamic values =>
    have hvalues := fun w => toList_join_flatten (walkAll_writes .markup values w)
    show (String.join ((walkAll o note .markup values).run _).1).toList = _
    rw [hvalues, piecesName]

theorem walkAll_writes (parent : Kind) (nodes : List Node) (w : Walker σ) :
    ((walkAll o note parent nodes).run w).1.map String.toList =
      (piecesEach o parent nodes).map assemble := by
  match nodes with
  | [] => rfl
  | node :: rest =>
    have hnode := fun w => walk_writes (some parent) node w
    have hrest := fun w => walkAll_writes parent rest w
    show (((walk o note (some parent) node).run _).1 :: ((walkAll o note parent rest).run _).1).map
      String.toList = _
    rw [List.map_cons, hnode, hrest, piecesEach, List.map_cons]
end

theorem toList_body (tree : Node) : (body o tree).toList = assemble (pieces o none tree) :=
  walk_writes o ignore none tree ⟨0, ()⟩

end TemplateCode.Render
