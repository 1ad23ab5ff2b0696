import Mathlib.Data.List.Infix
import TemplateCode.Proofs.Collapse
import TemplateCode.Proofs.Layout

/-! Condensing a script that is given by its pieces. Static texts that nothing or only newlines
separate are pushed as one, and all other code stands between them as before, even where it quotes
strings of its own. -/

namespace TemplateCode.Script

/-- Code in which no push is a literal one: where a push seems to begin, no complete literal follows
in this code. -/
def NoLiteral (run : List Char) : Prop :=
  ∀ body, Push.opener ++ body <:+ run → Literal.split? body = none

theorem noLiteral_iff_tails (run : List Char) :
    NoLiteral run ↔
      ∀ rest ∈ run.tails, ∀ body ∈ Push.opener.isPrefixOf? rest, Literal.split? body = none := by
  constructor
  · intro h rest hrest body hbody
    rw [List.mem_tails, isPrefixOf?_eq_some_iff.1 hbody] at hrest
    exact h body hrest
  · intro h body hbody
    exact h _ ((List.mem_tails _ _).2 hbody) body (isPrefixOf?_eq_some_iff.2 rfl)

instance : DecidablePred NoLiteral := fun run => decidable_of_iff' _ (noLiteral_iff_tails run)

theorem inert_of_noLiteral {run : List Char} (h : NoLiteral run) (hend : ¬ ['\\'] <:+ run) :
    Inert run := by
  intro body hbody
  have hbehind : body <:+ run := (List.suffix_append _ _).trans hbody
  exact ⟨h body hbody, fun hlast => hend (hlast.trans hbehind)⟩

def Piece.source : Piece → String
  | .static text => Push.text (String.ofList text)
  | .code text => String.ofList text

def source (ps : List Piece) : String := String.join (ps.map Piece.source)

theorem toList_source (ps : List Piece) : (source ps).toList = assemble ps := by
  have hpiece : ∀ p : Piece, p.source.toList = p.written := by
    rintro (text | text)
    · rw [Piece.source, Push.toList_text, String.toList_ofList]
      rfl
    · exact String.toList_ofList
  rw [source, String.toList_join, List.flatMap_map]
  exact List.flatMap_congr fun p _ => hpiece p

def merged (ps : List Piece) : List Piece :=
  .code (lead ps) :: (grouped (segments ps)).flatMap fun g => [.static g.text, .code g.code]

theorem assemble_merged (ps : List Piece) : assemble (merged ps) = layout ps := by
  rw [merged, layout, assemble_cons]
  refine congrArg (lead ps ++ ·) ?_
  induction grouped (segments ps) with
  | nil => rfl
  | cons g gs ih =>
    rw [List.flatMap_cons, assemble_append, ih]
    simp [Piece.written, writeSegments]

theorem isChain_grouped (gs : List Segment) :
    (grouped gs).IsChain fun g _ => g.code.all (· == '\n') = false := by
  induction gs with
  | nil => exact .nil
  | cons g gs ih =>
    rw [grouped]
    cases hgroups : grouped gs with
    | nil => exact .singleton g
    | cons h hs =>
      rw [hgroups] at ih
      dsimp only
      split
      · cases ih with
        | singleton => exact .singleton _
        | cons_cons hcode hchain => exact .cons_cons hcode hchain
      · next hcode => exact .cons_cons (Bool.eq_false_iff.2 hcode) ih

/-- Pieces whose code holds no literal push, and no run of which breaks off behind a backslash, are
condensed by merging their static texts as far as possible and then shortening runs of newlines. -/
theorem condense_source {ps : List Piece}
    (hruns : ∀ run ∈ codeRuns ps, NoLiteral run ∧ ¬ ['\\'] <:+ run) :
    condense (source ps) = String.ofList (collapse (source (merged ps)).toList) ∧
      (grouped (segments ps)).IsChain fun g _ => g.code.all (· == '\n') = false := by
  have hinert : ∀ run ∈ codeRuns ps, Inert run ∧ tokens (run ++ []) = tokens run ++ tokens [] := by
    intro run hrun
    obtain ⟨hnone, hend⟩ := hruns run hrun
    exact ⟨inert_of_noLiteral hnone hend, by rw [tokens_nil, List.append_nil, List.append_nil]⟩
  have hjoin := join_layout_of_inert (inert_of_no_opener (by decide)) hinert
  rw [List.append_nil, List.append_nil] at hjoin
  refine ⟨?_, isChain_grouped (segments ps)⟩
  rw [condense, toList_source, hjoin, toList_source, assemble_merged]

def quotingPieces : List Piece :=
  [.static "__vbuffer.push('".toList, .code "\n\n".toList, .static "\\".toList,
    .code (Push.expression "'b'.length").toList, .static "<p>".toList,
    .code (Push.expression "ok ? 'yes' : 'no'").toList, .static "</p>".toList, .static "!".toList]

theorem condense_source_quoting :
    (∀ run ∈ codeRuns quotingPieces, NoLiteral run ∧ ¬ ['\\'] <:+ run) ∧
      condense (source quotingPieces) =
        "\n__vbuffer.push('__vbuffer.push(\\'\\\\');\n__vbuffer.push('b'.length);\n" ++
          "__vbuffer.push('<p>');\n__vbuffer.push(ok ? 'yes' : 'no');\n" ++
          "__vbuffer.push('</p>!');\n" := by
  have hruns : ∀ run ∈ codeRuns quotingPieces, NoLiteral run ∧ ¬ ['\\'] <:+ run := by
    decide +kernel
  refine ⟨hruns, (condense_source hruns).1.trans ?_⟩
  rw [toList_source, assemble_merged]
  decide +kernel

end TemplateCode.Script
