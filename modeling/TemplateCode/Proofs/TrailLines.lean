import TemplateCode.Proofs.Interpolations
import TemplateCode.Proofs.TracedCompilation
import TemplateCode.Proofs.Visits

/-! What the lines of a trail tell about a tree. The events of a trail are brackets around what is
visited between them, so they tell which kinds of nodes stand where; and each line tells the phase
and the kind of its event, however far it is indented. -/

namespace TemplateCode.Tree

/-- The kinds of the nodes that are visited, and how they are nested. -/
inductive Outline where
  | node (kind : Kind) (children : List Outline)

def Node.outline (node : Node) : Outline :=
  .node node.kind (node.visited.attach.map fun child => child.1.outline)
termination_by sizeOf node
decreasing_by exact Node.sizeOf_lt_of_visited child.2

theorem Node.outline_eq (node : Node) :
    node.outline = .node node.kind (node.visited.map Node.outline) := by
  rw [Node.outline, List.attach_map_val]

mutual
def Outline.trail (depth : Nat) : Outline → List Event
  | .node kind children => bracketed kind depth (Outline.trailAll (depth + 1) children)

def Outline.trailAll (depth : Nat) : List Outline → List Event
  | [] => []
  | outline :: rest => outline.trail depth ++ Outline.trailAll depth rest
end

theorem Outline.trailAll_eq_flatMap (depth : Nat) (outlines : List Outline) :
    Outline.trailAll depth outlines = outlines.flatMap (Outline.trail depth) := by
  induction outlines with
  | nil => rw [Outline.trailAll, List.flatMap_nil]
  | cons outline rest ih => rw [Outline.trailAll, ih, List.flatMap_cons]

theorem trail_outline (depth : Nat) (node : Node) :
    node.outline.trail depth = trail depth node := by
  have hchildren : ∀ child ∈ node.visited,
      child.outline.trail (depth + 1) = trail (depth + 1) child :=
    fun child hchild => trail_outline (depth + 1) child
  rw [Node.outline_eq, Outline.trail, Outline.trailAll_eq_flatMap, List.flatMap_map,
    List.flatMap_congr hchildren, trail_eq_visited]
termination_by sizeOf node
decreasing_by exact Node.sizeOf_lt_of_visited hchild

section Labels

def Event.label (event : Event) : Phase × Kind := (event.phase, event.kind)

theorem map_label_bracketed (kind : Kind) (depth : Nat) (inner : List Event)
    (rest : List (Phase × Kind)) :
    (bracketed kind depth inner).map Event.label ++ rest =
      (.enter, kind) :: (inner.map Event.label ++ (.leave, kind) :: rest) := by
  simp [bracketed, Event.label]

mutual
theorem Outline.trail_append_inj (outline outline' : Outline) (depth depth' : Nat)
    (rest rest' : List (Phase × Kind))
    (h : (outline.trail depth).map Event.label ++ rest =
      (outline'.trail depth').map Event.label ++ rest') : outline = outline' ∧ rest = rest' := by
  match outline, outline' with
  | .node kind children, .node kind' children' =>
    rw [Outline.trail, Outline.trail, map_label_bracketed, map_label_bracketed] at h
    obtain ⟨hlabel, hinner⟩ := List.cons.inj h
    obtain rfl : kind = kind' := congrArg Prod.snd hlabel
    obtain ⟨rfl, hrest⟩ := Outline.trailAll_append_inj children children' _ _ _ _ _ _ hinner
    exact ⟨rfl, hrest⟩

theorem Outline.trailAll_append_inj (outlines outlines' : List Outline) (depth depth' : Nat)
    (kind kind' : Kind) (rest rest' : List (Phase × Kind))
    (h : (Outline.trailAll depth outlines).map Event.label ++ (.leave, kind) :: rest =
      (Outline.trailAll depth' outlines').map Event.label ++ (.leave, kind') :: rest') :
    outlines = outlines' ∧ rest = rest' := by
  match outlines, outlines' with
  | [], [] =>
    rw [Outline.trailAll, Outline.trailAll] at h
    exact ⟨rfl, (List.cons.inj h).2⟩
  | [], .node kind children :: others =>
    rw [Outline.trailAll, Outline.trailAll, Outline.trail, List.map_append, List.append_assoc,
      map_label_bracketed] at h
    cases (List.cons.inj h).1
  | .node kind children :: others, [] =>
    rw [Outline.trailAll, Outline.trailAll, Outline.trail, List.map_append, List.append_assoc,
      map_label_bracketed] at h
    cases (List.cons.inj h).1
  | outline :: others, outline' :: others' =>
    rw [Outline.trailAll, Outline.trailAll, List.map_append, List.map_append, List.append_assoc,
      List.append_assoc] at h
    obtain ⟨rfl, hothers⟩ := Outline.trail_append_inj outline outline' _ _ _ _ h
    obtain ⟨rfl, hrest⟩ := Outline.trailAll_append_inj others others' _ _ _ _ _ _ hothers
    exact ⟨rfl, hrest⟩
end

theorem eq_of_map_label_trail_eq {tree tree' : Node} {depth depth' : Nat}
    (h : (trail depth tree).map Event.label = (trail depth' tree').map Event.label) :
    tree.outline = tree'.outline := by
  rw [← trail_outline, ← trail_outline] at h
  exact (Outline.trail_append_inj _ _ depth depth' [] [] (by rw [h])).1

end Labels

section Lines

theorem dropWhile_line? {event : Event} {line : String} (h : event.line? = some line) :
    line.toList.dropWhile (· = ' ') = (event.phase.verb ++ " " ++ event.kind.tag).toList := by
  rw [Event.line?, Option.ite_none_right_eq_some] at h
  obtain ⟨-, hline⟩ := h
  cases hline
  simp only [String.toList_append, String.toList_ofList, List.append_assoc]
  rw [List.dropWhile_append_of_pos]
  · cases event.phase <;> rfl
  · intro c hc
    rw [List.eq_of_mem_replicate hc]
    rfl

theorem label_eq_of_line?_eq {event event' : Event} {line : String} (h : event.line? = some line)
    (h' : event'.line? = some line) : event.label = event'.label := by
  have hword := (dropWhile_line? h).symm.trans (dropWhile_line? h')
  have hphase : event.phase = event'.phase := by
    have hhead := congrArg List.head? hword
    cases hp : event.phase <;> cases hp' : event'.phase <;> simp_all [Phase.verb]
  have hkind : event.kind = event'.kind := by
    rw [hphase, String.toList_inj] at hword
    exact tag_injective (String.append_right_inj _ |>.1 hword)
  rw [Event.label, Event.label, hphase, hkind]

theorem trailLines?_cons_eq_some_iff {event : Event} {rest : List Event} {lines : List String} :
    trailLines? (event :: rest) = some lines ↔
      ∃ line others, event.line? = some line ∧ trailLines? rest = some others ∧
        lines = line :: others := by
  simp only [trailLines?, List.mapM_cons, Option.bind_eq_bind, Option.bind_eq_some_iff,
    Option.pure_def, Option.some_inj, eq_comm (a := lines), exists_and_left]

theorem map_label_eq_of_trailLines?_eq {events events' : List Event} {lines : List String}
    (h : trailLines? events = some lines) (h' : trailLines? events' = some lines) :
    events.map Event.label = events'.map Event.label := by
  induction events generalizing events' lines with
  | nil =>
    cases h
    cases events' with
    | nil => rfl
    | cons event' rest' =>
      obtain ⟨_, _, -, -, hlines⟩ := trailLines?_cons_eq_some_iff.1 h'
      cases hlines
  | cons event rest ih =>
    obtain ⟨line, others, hline, hothers, rfl⟩ := trailLines?_cons_eq_some_iff.1 h
    cases events' with
    | nil => cases h'
    | cons event' rest' =>
      obtain ⟨line', others', hline', hothers', hlines⟩ := trailLines?_cons_eq_some_iff.1 h'
      cases hlines
      rw [List.map_cons, List.map_cons, label_eq_of_line?_eq hline hline', ih hothers hothers']

end Lines

end TemplateCode.Tree

namespace TemplateCode.Render

open TemplateCode.Tree

inductive Recorded (o : Options) (tree : Node) : List Event → Prop
  | walk (parent : Option Kind) : Recorded o tree (freshWalk o parent tree).2.noted
  | generate {code : String} {events : List Event}
    (h : generateTraced o tree = .ok (code, events)) : Recorded o tree events

theorem Recorded.eq_trail {o : Options} {tree : Node} {events : List Event}
    (h : Recorded o tree events) : events = trail 0 tree := by
  cases h with
  | walk parent => exact ((walk_notes o record parent tree).noted ⟨0, []⟩).1
  | generate h =>
    rw [generateTraced_eq] at h
    obtain ⟨code, -, hevents⟩ := map_eq_ok_iff.1 h
    cases hevents
    rfl

/-- The lines of the events of two walks, under whatever options, are the same exactly if the trees
have the same outline. -/
theorem lines_eq_iff_outline_eq {o o' : Options} {tree tree' : Node} {events events' : List Event}
    {lines lines' : List String} (h : Recorded o tree events) (h' : Recorded o' tree' events')
    (hlines : trailLines? events = some lines) (hlines' : trailLines? events' = some lines') :
    lines = lines' ↔ tree.outline = tree'.outline := by
  rw [h.eq_trail] at hlines
  rw [h'.eq_trail] at hlines'
  constructor
  · rintro rfl
    exact eq_of_map_label_trail_eq (map_label_eq_of_trailLines?_eq hlines hlines')
  · intro houtline
    rw [← trail_outline, houtline, trail_outline, hlines'] at hlines
    exact (Option.some.inj hlines).symm

theorem lines_eq_iff_outline_eq_void :
    let tree := Node.program [.markup (.literal "br") [] [.text "unseen"] true false]
    let tree' := Node.program [.markup (.literal "img") [] [] true true]
    let lines := ["Entering VashProgram", "  Entering VashMarkup", "  Leaving VashMarkup",
      "Leaving VashProgram"]
    let events := (freshWalk .default none tree).2.noted
    let events' := (freshWalk (Options.default.choose (.asHelper true)) (some .block) tree').2.noted
    trailLines? events = some lines ∧ trailLines? events' = some lines ∧
      tree.outline = tree'.outline := by
  intro tree tree' lines events events'
  have hlines : trailLines? events = some lines := by decide +kernel
  have hlines' : trailLines? events' = some lines := by decide +kernel
  have houtline := lines_eq_iff_outline_eq (.walk none) (.walk _) hlines hlines'
  exact ⟨hlines, hlines', houtline.1 rfl⟩

end TemplateCode.Render
