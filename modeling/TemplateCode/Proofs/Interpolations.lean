import TemplateCode.Proofs.Trail

/-! Where the values of a template are escaped. The options decide only whether the call of the escaping
helper is written, and by which name: its two ends stand around the code of every interpolation in
content, as often as that is written, and nowhere else. -/

namespace TemplateCode.Tree

theorem TagName.sizeOf_lt_of_mem {name : TagName} {child : Node} (h : child ∈ name.nodes) :
    sizeOf child < sizeOf name := by
  cases name with
  | literal s => exact absurd h List.not_mem_nil
  | dynamic values =>
    have hlt : sizeOf child < sizeOf values := List.sizeOf_lt_of_mem h
    simp only [TagName.dynamic.sizeOf_spec]
    omega

theorem Node.sizeOf_lt_of_visited {node child : Node} (h : child ∈ node.visited) :
    sizeOf child < sizeOf node := by
  cases node with
  | program values | explicitExpression values | expression values | indexExpression values =>
    have hlt : sizeOf child < sizeOf values := List.sizeOf_lt_of_mem h
    simp
    omega
  | text value => exact absurd h List.not_mem_nil
  | markup name attributes values isVoid voidClosed =>
    simp only [Node.visited, List.mem_append] at h
    simp only [Node.markup.sizeOf_spec]
    rcases h with (hname | hattribute) | hvalue
    · have hlt := TagName.sizeOf_lt_of_mem hname
      omega
    · have hlt := List.sizeOf_lt_of_mem hattribute
      omega
    · cases isVoid with
      | true => exact absurd hvalue List.not_mem_nil
      | false =>
        have hlt : sizeOf child < sizeOf values := List.sizeOf_lt_of_mem hvalue
        omega
  | markupAttribute left right quote =>
    simp only [Node.visited, List.mem_append] at h
    simp only [Node.markupAttribute.sizeOf_spec]
    rcases h with hmem | hmem
    all_goals
      have hlt := List.sizeOf_lt_of_mem hmem
      omega
  | block head values tail =>
    simp only [Node.visited, List.mem_append] at h
    simp only [Node.block.sizeOf_spec]
    rcases h with (hmem | hmem) | hmem
    all_goals
      have hlt := List.sizeOf_lt_of_mem hmem
      omega

/-- The children that a node is written with, in order. They are those that are visited, and a computed
name once more for the closing tag. -/
def Node.emitted : Node → List Node
  | .markup name attributes values false _ => name.nodes ++ attributes ++ values ++ name.nodes
  | node => node.visited

theorem Node.sizeOf_lt_of_emitted {node child : Node} (h : child ∈ node.emitted) :
    sizeOf child < sizeOf node := by
  apply Node.sizeOf_lt_of_visited
  revert h
  fun_cases Node.emitted node with
  | case1 name attributes values voidClosed =>
    intro h
    rcases List.mem_append.1 h with hvisited | hname
    · exact hvisited
    · exact List.mem_append_left _ (List.mem_append_left _ hname)
  | case2 => exact id

theorem Node.induction_emitted {P : Node → Prop}
    (h : ∀ node, (∀ child ∈ node.emitted, P child) → P node) (node : Node) : P node :=
  h node fun child _hchild => induction_emitted h child
termination_by sizeOf node
decreasing_by exact Node.sizeOf_lt_of_emitted _hchild

def occurrences (parent : Option Kind) (node : Node) : List (Option Kind × Node) :=
  (parent, node) :: node.emitted.attach.flatMap fun child => occurrences (some node.kind) child.1
termination_by sizeOf node
decreasing_by exact Node.sizeOf_lt_of_emitted child.2

theorem occurrences_eq (parent : Option Kind) (node : Node) :
    occurrences parent node =
      (parent, node) :: node.emitted.flatMap (occurrences (some node.kind)) := by
  rw [occurrences, List.flatMap_subtype]
  · rw [List.unattach_attach]
  · intro child hchild
    rfl

end TemplateCode.Tree

namespace TemplateCode.Render

open TemplateCode.Script TemplateCode.Tree

/-- A value that becomes output: an expression, explicit or not, under a parent whose children are
output. -/
def isInterpolation (n : Option Kind × Node) : Bool :=
  decide (n.2.kind ∈ [.expression, .explicitExpression] ∧
    n.1 ∈ [some .program, some .markup, some .markupAttribute])

def interpolations (parent : Option Kind) (node : Node) : List (Option Kind × Node) :=
  (occurrences parent node).filter isInterpolation

theorem interpolations_eq (parent : Option Kind) (node : Node) :
    interpolations parent node =
      (if isInterpolation (parent, node) then [(parent, node)] else []) ++
        node.emitted.flatMap (interpolations (some node.kind)) := by
  rw [interpolations, occurrences_eq, List.filter_cons, List.filter_flatMap]
  split <;> rfl

theorem interpolations_of_kind (kind : Kind) (h : kind ∉ [.expression, .explicitExpression])
    {node : Node} (hkind : node.kind = kind) (parent : Option Kind) :
    interpolations parent node = node.emitted.flatMap (interpolations (some kind)) := by
  subst hkind
  have hother : ¬ isInterpolation (parent, node) = true := fun hvalue => h (of_decide_eq_true hvalue).1
  rw [interpolations_eq, if_neg hother, List.nil_append]

theorem isInterpolation_eq (kind : Kind) (h : kind ∈ [.expression, .explicitExpression])
    {node : Node} (hkind : node.kind = kind) (parent : Option Kind) :
    isInterpolation (parent, node) = isContent parent := by
  subst hkind
  have hcontent : isContent parent =
      decide (parent ∈ [some .program, some .markup, some .markupAttribute]) := by
    cases parent with
    | none => rfl
    | some kind => cases kind <;> rfl
  rw [isInterpolation, hcontent]
  exact decide_eq_decide.2 (and_iff_right h)

inductive Part where
  | text (chars : List Char)
  | opening (occurrence : Option Kind × Node)
  | closing (occurrence : Option Kind × Node)

def Part.plain : Part → List Char
  | .text chars => chars
  | .opening _ | .closing _ => []

def Part.marked (helpersName : String) : Part → List Char
  | .text chars => chars
  | .opening _ => (helpersName ++ ".escape(").toList
  | .closing _ => ").toHtmlString()".toList

def unescapedContent (node : Node) : List Char :=
  let o := { Options.default with htmlEscape := false }
  (String.join ((walkAll o ignore node.kind node.emitted).run ⟨0, ()⟩).1).toList

/-- The marks among the parts are well nested, and the pairs are those of the given occurrences, in the
order in which they open. Between the marks of an occurrence stands the code of its children, with the
marks of the interpolations in them. -/
inductive Marked : List (Option Kind × Node) → List Part → Prop
  | nil : Marked [] []
  | text {ns : List (Option Kind × Node)} {ps : List Part} (chars : List Char) :
    Marked ns ps → Marked ns (.text chars :: ps)
  | pair {ns ms : List (Option Kind × Node)} {ps qs : List Part} (n : Option Kind × Node) :
    ns = n.2.emitted.flatMap (interpolations (some n.2.kind)) →
      ps.flatMap Part.plain = unescapedContent n.2 →
      Marked ns ps → Marked ms qs →
      Marked (n :: (ns ++ ms)) (.opening n :: (ps ++ .closing n :: qs))

theorem Marked.append {ns ms : List (Option Kind × Node)} {ps qs : List Part} (hps : Marked ns ps)
    (hqs : Marked ms qs) : Marked (ns ++ ms) (ps ++ qs) := by
  induction hps with
  | nil => exact hqs
  | text chars _ ih => exact ih.text chars
  | pair n hns hcode hinner _ _ ih =>
    have hpair := Marked.pair n hns hcode hinner ih
    simpa only [List.cons_append, List.append_assoc] using hpair

def writeParts (o : Options) (ps : List Part) : List Char :=
  if o.htmlEscape then ps.flatMap (Part.marked o.helpersName) else ps.flatMap Part.plain

theorem writeParts_append (o : Options) (ps qs : List Part) :
    writeParts o (ps ++ qs) = writeParts o ps ++ writeParts o qs := by
  unfold writeParts
  split <;> exact List.flatMap_append

theorem writeParts_text (o : Options) (chars : List Char) : writeParts o [.text chars] = chars := by
  unfold writeParts
  split <;> exact List.flatMap_singleton _ _

/-- Pieces that depend on the options only in how the marks are written that stand around the code of the
given occurrences. -/
def Uniform (ns : List (Option Kind × Node)) (f : Options → List Piece) : Prop :=
  ∃ ps, Marked ns ps ∧ ∀ o, assemble (f o) = writeParts o ps

section Uniform

variable {ns ms : List (Option Kind × Node)} {f g : Options → List Piece}

theorem uniform_const (qs : List Piece) : Uniform [] fun _ => qs :=
  ⟨[.text (assemble qs)], Marked.nil.text _, fun o => (writeParts_text o _).symm⟩

theorem Uniform.append (hf : Uniform ns f) (hg : Uniform ms g) :
    Uniform (ns ++ ms) fun o => f o ++ g o := by
  obtain ⟨ps, hps, hwritten⟩ := hf
  obtain ⟨qs, hqs, hwritten'⟩ := hg
  refine ⟨ps ++ qs, hps.append hqs, fun o => ?_⟩
  rw [assemble_append, hwritten, hwritten', writeParts_append]

theorem Uniform.between (hf : Uniform ns f) (before after : List Piece) :
    Uniform ns fun o => before ++ f o ++ after := by
  have h := ((uniform_const before).append hf).append (uniform_const after)
  rwa [List.nil_append, List.append_nil] at h

theorem Uniform.pushed (hf : Uniform ns f) : Uniform ns fun o => pushedPieces (f o) :=
  hf.between [raw "\n__vbuffer.push("] [raw ");\n"]

theorem assemble_raw (s : String) (ps : List Piece) : assemble (raw s :: ps) = s.toList ++ assemble ps :=
  rfl

theorem writeParts_pair {o : Options} {ps : List Part} {inner : List Piece}
    (h : assemble inner = writeParts o ps) (n : Option Kind × Node) :
    assemble (escapedPieces o inner) = writeParts o ([.opening n] ++ ps ++ [.closing n]) := by
  rw [writeParts_append, writeParts_append, ← h]
  unfold writeParts escapedPieces
  split
  · have hopening : Part.marked o.helpersName (.opening n) =
        o.helpersName.toList ++ ".escape(".toList := String.toList_append
    have hclosing : Part.marked o.helpersName (.closing n) = ").toHtmlString()".toList := rfl
    rw [assemble_append, assemble_append, assemble_raw, assemble_raw, assemble_raw, assemble_nil,
      List.append_nil, List.append_nil, List.flatMap_singleton, List.flatMap_singleton, hopening,
      hclosing]
  · exact (List.append_nil _).symm

theorem Uniform.escaped {parent : Option Kind} {node : Node}
    (h : Uniform (node.emitted.flatMap (interpolations (some node.kind)))
      fun o => (piecesEach o node.kind node.emitted).flatten) :
    Uniform ((parent, node) :: node.emitted.flatMap (interpolations (some node.kind)))
      fun o => escapedPieces o (piecesEach o node.kind node.emitted).flatten := by
  obtain ⟨ps, hps, hwritten⟩ := h
  have hcode : ps.flatMap Part.plain = unescapedContent node := by
    rw [unescapedContent, toList_join_flatten (walkAll_writes _ _ _ _ _), hwritten]
    rfl
  have hpair := Marked.pair (parent, node) rfl hcode hps Marked.nil
  rw [List.append_nil] at hpair
  exact ⟨_, hpair, fun o => writeParts_pair (hwritten o) (parent, node)⟩

end Uniform

def AllUniform (parent : Kind) (nodes : List Node) : Prop :=
  ∀ node ∈ nodes, Uniform (interpolations (some parent) node) (pieces · (some parent) node)

theorem allUniform_append {parent : Kind} {nodes rest : List Node} :
    AllUniform parent (nodes ++ rest) ↔ AllUniform parent nodes ∧ AllUniform parent rest :=
  List.forall_mem_append

section AllUniform

variable {parent : Kind} {nodes : List Node}

theorem AllUniform.each (h : AllUniform parent nodes) (before : List Piece) :
    Uniform (nodes.flatMap (interpolations (some parent)))
      fun o => (piecesEach o parent nodes).flatMap (before ++ ·) := by
  induction nodes with
  | nil => exact uniform_const []
  | cons node rest ih =>
    rw [AllUniform, List.forall_mem_cons] at h
    have hnode := (uniform_const before).append h.1
    have hrest := ih h.2
    simp only [piecesEach, List.flatMap_cons]
    exact hnode.append hrest

theorem AllUniform.flatten (h : AllUniform parent nodes) :
    Uniform (nodes.flatMap (interpolations (some parent)))
      fun o => (piecesEach o parent nodes).flatten := by
  have heach := h.each []
  simpa only [List.nil_append, List.flatMap_id'] using heach

end AllUniform

section Markup

variable {name : TagName} {attributes values : List Node}

theorem uniform_name (h : AllUniform .markup name.nodes) :
    Uniform (name.nodes.flatMap (interpolations (some .markup))) (piecesName · name) := by
  cases name with
  | literal name =>
    simp only [piecesName]
    exact uniform_const _
  | dynamic values =>
    simp only [piecesName]
    exact h.flatten

theorem uniform_openTag (hname : AllUniform .markup name.nodes)
    (hattributes : AllUniform .markup attributes) :
    Uniform ((name.nodes ++ attributes).flatMap (interpolations (some .markup))) fun o =>
      [fixed "<"] ++ piecesName o name ++
        (piecesEach o .markup attributes).flatMap fun ps => [fixed " "] ++ ps := by
  have htag := (uniform_const [fixed "<"]).append (uniform_name hname)
  have hspaced := hattributes.each [fixed " "]
  rw [List.flatMap_append]
  exact htag.append hspaced

theorem uniform_void {voidClosed : Bool} (parent : Option Kind)
    (h : AllUniform .markup (Node.markup name attributes values true voidClosed).emitted) :
    Uniform (interpolations parent (.markup name attributes values true voidClosed))
      (pieces · parent (.markup name attributes values true voidClosed)) := by
  have hemitted : (Node.markup name attributes values true voidClosed).emitted =
      name.nodes ++ attributes := List.append_nil _
  rw [hemitted, allUniform_append] at h
  have hvoid := (uniform_openTag h.1 h.2).append
    (uniform_const [fixed (if voidClosed then "/>" else ">")])
  rw [interpolations_of_kind .markup (by decide) rfl, hemitted]
  simp only [pieces]
  simpa only [List.append_nil, if_true] using hvoid

theorem uniform_element {voidClosed : Bool} (parent : Option Kind)
    (h : AllUniform .markup (Node.markup name attributes values false voidClosed).emitted) :
    Uniform (interpolations parent (.markup name attributes values false voidClosed))
      (pieces · parent (.markup name attributes values false voidClosed)) := by
  have hemitted : (Node.markup name attributes values false voidClosed).emitted =
      name.nodes ++ attributes ++ values ++ name.nodes := rfl
  rw [hemitted, allUniform_append, allUniform_append, allUniform_append] at h
  obtain ⟨⟨⟨hname, hattributes⟩, hvalues⟩, -⟩ := h
  have hcontent := hvalues.flatten.between [fixed ">"] [fixed "</"]
  have hclose := (uniform_name hname).append (uniform_const [fixed ">"])
  have helement := ((uniform_openTag hname hattributes).append hcontent).append hclose
  rw [interpolations_of_kind .markup (by decide) rfl, hemitted, List.flatMap_append,
    List.flatMap_append]
  simp only [pieces]
  simpa only [List.append_nil, List.append_assoc, Bool.false_eq_true, if_false] using helement

theorem uniform_attribute {left right : List Node} {quote : Option Char} (parent : Option Kind)
    (h : AllUniform .markupAttribute (left ++ right)) :
    Uniform (interpolations parent (.markupAttribute left right quote))
      (pieces · parent (.markupAttribute left right quote)) := by
  have hemitted : (Node.markupAttribute left right quote).emitted = left ++ right := rfl
  rw [allUniform_append] at h
  rw [interpolations_of_kind .markupAttribute (by decide) rfl, hemitted, List.flatMap_append]
  simp only [pieces]
  refine h.1.flatten.append ?_
  cases hbare : right.isEmpty && quote.isNone with
  | true =>
    obtain rfl : right = [] := List.isEmpty_iff.1 (Bool.and_eq_true_iff.1 hbare).1
    exact uniform_const []
  | false => exact h.2.flatten.between _ _

end Markup

theorem uniform_block {head values tail : List Node} (parent : Option Kind)
    (h : AllUniform .block (head ++ values ++ tail)) :
    Uniform (interpolations parent (.block head values tail))
      (pieces · parent (.block head values tail)) := by
  have hemitted : (Node.block head values tail).emitted = head ++ values ++ tail := rfl
  rw [allUniform_append, allUniform_append] at h
  obtain ⟨⟨hhead, hvalues⟩, htail⟩ := h
  have hbraces := hvalues.flatten.between [raw r"{"] [raw r"}"]
  have hblock := (hhead.flatten.append hbraces).append htail.flatten
  rw [interpolations_of_kind .block (by decide) rfl, hemitted, List.flatMap_append,
    List.flatMap_append]
  simp only [pieces]
  simpa only [List.append_assoc] using hblock

theorem uniform_pieces (parent : Option Kind) (node : Node) :
    Uniform (interpolations parent node) (pieces · parent node) := by
  induction node using Node.induction_emitted generalizing parent with
  | h node ih =>
    have hchildren : AllUniform node.kind node.emitted :=
      fun child hchild => ih child hchild (some node.kind)
    cases node with
    | program body =>
      rw [interpolations_of_kind .program (by decide) rfl]
      simp only [pieces]
      exact hchildren.flatten
    | explicitExpression values =>
      have hvalues := hchildren.flatten
      rw [interpolations_eq, isInterpolation_eq .explicitExpression (by decide) rfl]
      simp only [pieces]
      cases isContent parent with
      | true => exact ((Uniform.escaped hvalues).between [raw "("] [raw ")"]).pushed
      | false => exact hvalues.between [raw "("] [raw ")"]
    | expression values =>
      have hvalues := hchildren.flatten
      rw [interpolations_eq, isInterpolation_eq .expression (by decide) rfl]
      simp only [pieces]
      cases isContent parent with
      | true => exact (Uniform.escaped hvalues).pushed
      | false => exact hvalues
    | markup name attributes values isVoid voidClosed =>
      cases isVoid with
      | true => exact uniform_void parent hchildren
      | false => exact uniform_element parent hchildren
    | markupAttribute left right quote => exact uniform_attribute parent hchildren
    | block head values tail => exact uniform_block parent hchildren
    | indexExpression values =>
      rw [interpolations_of_kind .indexExpression (by decide) rfl]
      simp only [pieces]
      exact hchildren.flatten.between [raw "["] [raw "]"]
    | text value =>
      rw [interpolations_of_kind .text (by decide) rfl]
      simp only [pieces]
      exact uniform_const _

/-- There are parts with well-nested marks, one pair around the code of each interpolation in content as
often as it is written and none around anything else, such that a walk writes the parts without the marks
when escaping is off, and with the marks as calls of the helper when it is on. No other option matters. -/
theorem walk_writes_marked_parts (parent : Option Kind) (node : Node) :
    ∃ ps : List Part, Marked (interpolations parent node) ps ∧
      ∀ {σ : Type} (o : Options) (note : Note σ) (w : Walker σ),
        ((walk o note parent node).run w).1.toList =
          if o.htmlEscape then ps.flatMap (Part.marked o.helpersName) else ps.flatMap Part.plain := by
  obtain ⟨ps, hps, hwritten⟩ := uniform_pieces parent node
  refine ⟨ps, hps, fun o note w => ?_⟩
  rw [walk_writes]
  exact hwritten o

end TemplateCode.Render
