import TemplateCode.Proofs.Emission
import TemplateCode.Proofs.Skeleton

/-! The shape of a whole render function: between the head and the tail stands the layout of the
tree's pieces, with runs of newlines shortened throughout. -/

namespace TemplateCode.Render

open TemplateCode.Script TemplateCode.Tree

theorem no_opener_after_line {line run : List Char} (hquote : '\'' ∉ line)
    (hends : ends false line = true) (hrun : ¬ Push.opener <:+: run) :
    ¬ Push.opener <:+: line ++ run := by
  obtain ⟨text, rfl⟩ := ends_eq_true hends
  rw [List.append_assoc, List.singleton_append]
  induction text with
  | nil =>
    rw [List.nil_append, List.infix_cons_iff, not_or]
    exact ⟨fun h => by simpa [Push.opener] using prefix_before (s := []) (by decide) h, hrun⟩
  | cons c text ih =>
    rw [List.cons_append, List.infix_cons_iff, not_or]
    refine ⟨fun h => ?_, ih (fun hm => hquote (List.mem_cons_of_mem c hm)) ?_⟩
    · have hmem := (prefix_before (s := c :: text) (by decide) h).subset quote_mem_opener
      exact hquote (List.mem_append_left _ hmem)
    · rw [ends_append]
      rfl

theorem join_wrap_body {o : Options} (hv : o.validate = .ok ()) {tree : Node}
    (hruns : ∀ run ∈ codeRuns (pieces o none tree), ¬ Push.opener <:+: run) :
    join (wrap o (body o tree)).toList =
      (front o).toList ++ layout (pieces o none tree) ++ (back o).toList := by
  have hwrapped : (wrap o (body o tree)).toList =
      assemble (.code (front o).toList :: pieces o none tree) ++ (back o).toList := by
    rw [wrap_eq, String.toList_append, String.toList_append, toList_body]
    rfl
  have hfront : ∀ run ∈ codeRuns (.code (front o).toList :: pieces o none tree),
      ¬ Push.opener <:+: run := by
    rw [codeRuns, List.forall_mem_cons] at hruns ⊢
    exact ⟨no_opener_after_line (quote_notMem_front hv) (front_ends o) hruns.1, hruns.2⟩
  rw [hwrapped, join_layout (guarded_back hv) hfront]
  simp only [layout, lead, segments, List.append_assoc]

/-- The source of a tree in whose code no literal push begins. -/
theorem generate_eq_layout {o : Options} (hv : o.validate = .ok ()) {tree : Node}
    (hruns : ∀ run ∈ codeRuns (pieces o none tree), ¬ Push.opener <:+: run) :
    generate o tree =
      .ok (String.ofList (collapse
        ((front o).toList ++ layout (pieces o none tree) ++ (back o).toList))) := by
  rw [generate_eq, hv, ← join_wrap_body hv hruns]
  rfl

def spellingTree : Node :=
  .program [.text "');\n__vbuffer.push('x", .markup (.literal "p") [] [.text "\\",
    .expression [.text "model.name"]] false false]

theorem generate_eq_layout_spelling :
    (∀ run ∈ codeRuns (pieces Options.default none spellingTree), ¬ Push.opener <:+: run) ∧
      generate Options.default spellingTree =
        .ok (String.ofList (collapse ((front Options.default).toList ++
          layout (pieces Options.default none spellingTree) ++ (back Options.default).toList))) := by
  have hruns : ∀ run ∈ codeRuns (pieces Options.default none spellingTree),
      ¬ Push.opener <:+: run := by decide +kernel
  exact ⟨hruns, generate_eq_layout (by decide) hruns⟩

end TemplateCode.Render
