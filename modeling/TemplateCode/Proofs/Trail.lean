import TemplateCode.Proofs.Emission

/-! The trail of a tree. Every node is noted around its visited children, which stand one level
deeper; a walk notes exactly this trail and comes back to the depth where it began, so walks that
share one walker do not disturb each other. -/

namespace TemplateCode.Tree

def TagName.nodes : TagName → List Node
  | .literal _ => []
  | .dynamic values => values

def Node.visited : Node → List Node
  | .program body => body
  | .explicitExpression values | .expression values | .indexExpression values => values
  | .markup name attributes values isVoid _ =>
    name.nodes ++ attributes ++ if isVoid then [] else values
  | .markupAttribute left right _ => left ++ right
  | .block head values tail => head ++ values ++ tail
  | .text _ => []

def bracketed (kind : Kind) (depth : Nat) (inner : List Event) : List Event :=
  ⟨.enter, kind, depth⟩ :: inner ++ [⟨.leave, kind, depth⟩]

mutual
/-- The events of a node at a depth, and of all that is visited below it. -/
def trail (depth : Nat) : Node → List Event
  | .program body => bracketed .program depth (trailAll (depth + 1) body)
  | .explicitExpression values =>
    bracketed .explicitExpression depth (trailAll (depth + 1) values)
  | .expression values => bracketed .expression depth (trailAll (depth + 1) values)
  | .markup name attributes values isVoid _ =>
    bracketed .markup depth (trailName (depth + 1) name ++ trailAll (depth + 1) attributes ++
      if isVoid then [] else trailAll (depth + 1) values)
  | .markupAttribute left right _ =>
    bracketed .markupAttribute depth (trailAll (depth + 1) left ++ trailAll (depth + 1) right)
  | .block head values tail =>
    bracketed .block depth (trailAll (depth + 1) head ++ trailAll (depth + 1) values ++
      trailAll (depth + 1) tail)
  | .indexExpression values => bracketed .indexExpression depth (trailAll (depth + 1) values)
  | .text _ => bracketed .text depth []

def trailName (depth : Nat) : TagName → List Event
  | .literal _ => []
  | .dynamic values => trailAll depth values

def trailAll (depth : Nat) : List Node → List Event
  | [] => []
  | node :: rest => trail depth node ++ trailAll depth rest
end

theorem trailAll_eq_flatMap (depth : Nat) (nodes : List Node) :
    trailAll depth nodes = nodes.flatMap (trail depth) := by
  induction nodes with
  | nil => rw [trailAll, List.flatMap_nil]
  | cons node rest ih => rw [trailAll, ih, List.flatMap_cons]

theorem trailName_eq_flatMap (depth : Nat) (name : TagName) :
    trailName depth name = name.nodes.flatMap (trail depth) := by
  cases name with
  | literal name => rw [trailName, TagName.nodes, List.flatMap_nil]
  | dynamic values => rw [trailName, TagName.nodes, trailAll_eq_flatMap]

theorem trail_eq_visited (depth : Nat) (node : Node) :
    trail depth node = bracketed node.kind depth (node.visited.flatMap (trail (depth + 1))) := by
  cases node with
  | markup name attributes values isVoid voidClosed =>
    have hvalues : (if isVoid then [] else trailAll (depth + 1) values) =
        (if isVoid then [] else values).flatMap (trail (depth + 1)) := by
      cases isVoid with
      | true => rfl
      | false => exact trailAll_eq_flatMap (depth + 1) values
    rw [trail, hvalues, trailName_eq_flatMap, trailAll_eq_flatMap, Node.visited, Node.kind,
      List.flatMap_append, List.flatMap_append]
  | program | explicitExpression | expression | markupAttribute | block | indexExpression | text =>
    simp only [trail, trailAll_eq_flatMap, Node.visited, Node.kind, List.flatMap_append,
      List.flatMap_nil]

end TemplateCode.Tree

namespace TemplateCode.Render

open TemplateCode.Tree

variable {σ α β : Type} {note : Note σ}

/-- A computation notes the given events, which may depend on the depth where it begins, and ends at
that depth. -/
def Notes (note : Note σ) (events : Nat → List Event) (m : StateM (Walker σ) α) : Prop :=
  ∀ w, (m.run w).2 = ⟨w.depth, (events w.depth).foldl note w.sink⟩

theorem notes_pure (a : α) : Notes note (fun _ => []) (pure a) := fun _ => rfl

theorem Notes.bind {events later : Nat → List Event} {m : StateM (Walker σ) α}
    {f : α → StateM (Walker σ) β} (hm : Notes note events m) (hf : ∀ a, Notes note later (f a)) :
    Notes note (fun depth => events depth ++ later depth) (m >>= f) := by
  intro w
  show ((f (m.run w).1).run (m.run w).2).2 = _
  rw [hf, hm, List.foldl_append]

theorem Notes.pureAfter {events : Nat → List Event} {m : StateM (Walker σ) α}
    (hm : Notes note events m) (f : α → β) : Notes note events (do return f (← m)) := by
  have h := hm.bind fun a => notes_pure (f a)
  simpa only [List.append_nil] using h

theorem Notes.visit {events : Nat → List Event} {rule : StateM (Walker σ) String}
    (h : Notes note events rule) (kind : Kind) :
    Notes note (fun depth => bracketed kind depth (events (depth + 1)))
      (Render.visit note kind rule) := by
  intro w
  have hrule := h ⟨w.depth + 1, note w.sink ⟨.enter, kind, w.depth⟩⟩
  show (⟨(rule.run _).2.depth - 1, note (rule.run _).2.sink ⟨.leave, kind, (rule.run _).2.depth - 1⟩⟩
    : Walker σ) = _
  simp only [hrule, bracketed, List.foldl_append, List.foldl_cons, List.foldl_nil,
    Nat.add_sub_cancel]

variable (o : Options) (note : Note σ)

mutual
theorem walk_notes (parent : Option Kind) (node : Node) :
    Notes note (trail · node) (walk o note parent node) := by
  match node with
  | .program body =>
    simp only [walk, trail]
    exact ((walkAll_notes .program body).pureAfter _).visit .program
  | .explicitExpression values =>
    simp only [walk, trail]
    exact ((walkAll_notes .explicitExpression values).pureAfter _).visit .explicitExpression
  | .expression values =>
    simp only [walk, trail]
    exact ((walkAll_notes .expression values).pureAfter _).visit .expression
  | .markup name attributes values isVoid voidClosed =>
    have hname := walkName_notes name
    have hattributes := walkAll_notes .markup attributes
    have hvalues := walkAll_notes .markup values
    cases isVoid with
    | true =>
      simp only [walk, trail, if_true, List.append_nil]
      exact Notes.visit (hname.bind fun _ => hattributes.pureAfter _) .markup
    | false =>
      simp only [walk, trail, Bool.false_eq_true, if_false, List.append_assoc]
      exact Notes.visit (hname.bind fun _ => hattributes.bind fun _ => hvalues.pureAfter _) .markup
  | .markupAttribute left right quote =>
    have hleft := walkAll_notes .markupAttribute left
    have hright := walkAll_notes .markupAttribute right
    simp only [walk, trail]
    cases hbare : right.isEmpty && quote.isNone with
    | true =>
      -- An attribute without a value has nothing on its right to visit.
      obtain rfl : right = [] := List.isEmpty_iff.1 (Bool.and_eq_true_iff.1 hbare).1
      simp only [if_true, trailAll, List.append_nil]
      exact (hleft.pureAfter _).visit .markupAttribute
    | false =>
      simp only [Bool.false_eq_true, if_false]
      exact Notes.visit (hleft.bind fun _ => hright.pureAfter _) .markupAttribute
  | .block head values tail =>
    have hhead := walkAll_notes .block head
    have hvalues := walkAll_notes .block values
    have htail := walkAll_notes .block tail
    simp only [walk, trail, List.append_assoc]
    exact Notes.visit (hhead.bind fun _ => hvalues.bind fun _ => htail.pureAfter _) .block
  | .indexExpression values =>
    simp only [walk, trail]
    exact ((walkAll_notes .indexExpression values).pureAfter _).visit .indexExpression
  | .text value =>
    simp only [walk, trail]
    exact (notes_pure _).visit .text

theorem walkName_notes (name : TagName) :
    Notes note (trailName · name) (walkName o note name) := by
  match name with
  | .literal name =>
    simp only [walkName, trailName]
    exact notes_pure _
  | .dynamic values =>
    simp only [walkName, trailName]
    exact (walkAll_notes .markup values).pureAfter _

theorem walkAll_notes (parent : Kind) (nodes : List Node) :
    Notes note (trailAll · nodes) (walkAll o note parent nodes) := by
  match nodes with
  | [] =>
    simp only [walkAll, trailAll]
    exact notes_pure _
  | node :: rest =>
    have hnode := walk_notes (some parent) node
    have hrest := walkAll_notes parent rest
    simp only [walkAll, trailAll]
    exact hnode.bind fun _ => hrest.pureAfter _
end

variable {o note}

theorem Notes.mapM {γ : Type} {events : γ → Nat → List Event} {f : γ → StateM (Walker σ) α}
    (h : ∀ c, Notes note (events c) (f c)) (cs : List γ) :
    Notes note (fun depth => cs.flatMap (events · depth)) (cs.mapM f) := by
  induction cs with
  | nil => exact notes_pure []
  | cons c cs ih =>
    simp only [List.mapM_cons, List.flatMap_cons]
    exact (h c).bind fun a => ih.pureAfter _

theorem fst_mapM_run {γ : Type} {f : γ → StateM (Walker σ) α} {g : γ → α}
    (h : ∀ c w, ((f c).run w).1 = g c) (cs : List γ) (w : Walker σ) :
    ((cs.mapM f).run w).1 = cs.map g := by
  induction cs generalizing w with
  | nil => rfl
  | cons c cs ih =>
    rw [List.mapM_cons, List.map_cons, ← h c w, ← ih ((f c).run w).2]
    rfl

theorem fst_walk_run {τ : Type} (note' : Note τ) (parent : Option Kind) (node : Node)
    (w : Walker σ) (w' : Walker τ) :
    ((walk o note parent node).run w).1 = ((walk o note' parent node).run w').1 := by
  rw [← String.toList_inj, walk_writes, walk_writes]

def Walker.noted (w : Walker (List Event)) : List Event := w.sink.reverse

theorem Notes.noted {events : Nat → List Event} {m : StateM (Walker (List Event)) α}
    (h : Notes record events m) (w : Walker (List Event)) :
    (m.run w).2.noted = w.noted ++ events w.depth ∧ (m.run w).2.depth = w.depth := by
  have hsink : (events w.depth).foldl record w.sink = (events w.depth).reverse ++ w.sink :=
    List.foldl_flip_cons_eq_append'
  rw [h w, Walker.noted, Walker.noted, hsink, List.reverse_append, List.reverse_reverse]
  exact ⟨rfl, rfl⟩

def freshWalk (o : Options) (parent : Option Kind) (node : Node) : String × Walker (List Event) :=
  (walk o record parent node).run ⟨0, []⟩

/-- A walk records the trail of its node and returns to its depth. So walks that follow one another
write what each would have written alone, and record what each would have recorded alone. -/
theorem walk_records_trail (o : Options) :
    (∀ (parent : Option Kind) (node : Node) (w : Walker (List Event)),
      ((walk o record parent node).run w).2.noted = w.noted ++ trail w.depth node ∧
      ((walk o record parent node).run w).2.depth = w.depth ∧
      trail w.depth node =
        bracketed node.kind w.depth (node.visited.flatMap (trail (w.depth + 1)))) ∧
    ∀ (calls : List (Option Kind × Node)) (sink : List Event),
      let walked := (calls.mapM fun (parent, node) => walk o record parent node).run ⟨0, sink⟩
      walked.1 = calls.map (fun (parent, node) => (freshWalk o parent node).1) ∧
      walked.2.noted =
        sink.reverse ++ calls.flatMap (fun (parent, node) => (freshWalk o parent node).2.noted) ∧
      walked.2.depth = 0 := by
  have hwalk := fun parent node => walk_notes o record parent node
  refine ⟨fun parent node w => ?_, fun calls sink => ?_⟩
  · obtain ⟨hnoted, hdepth⟩ := (hwalk parent node).noted w
    exact ⟨hnoted, hdepth, trail_eq_visited w.depth node⟩
  · have hfresh : (fun call : Option Kind × Node => (freshWalk o call.1 call.2).2.noted) =
        fun call => trail 0 call.2 := by
      funext call
      exact ((hwalk call.1 call.2).noted ⟨0, []⟩).1
    have hbody : ∀ (call : Option Kind × Node) (w : Walker (List Event)),
        ((walk o record call.1 call.2).run w).1 = (freshWalk o call.1 call.2).1 :=
      fun call w => fst_walk_run record call.1 call.2 w ⟨0, []⟩
    obtain ⟨hnoted, hdepth⟩ :=
      (Notes.mapM (fun call : Option Kind × Node => hwalk call.1 call.2) calls).noted ⟨0, sink⟩
    refine ⟨fst_mapM_run hbody calls _, ?_, hdepth⟩
    rw [hfresh]
    exact hnoted

end TemplateCode.Render
