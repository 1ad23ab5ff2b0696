import TemplateCode.Proofs.Lines
import TemplateCode.Proofs.Seam

/-! Scripts put together from static texts and code. Joining merges the static texts between which
there is nothing but newlines and leaves the rest as it is, provided that no run of code spells a
literal push itself or breaks off inside of one. -/

namespace TemplateCode.Script

inductive Piece where
  | static (text : List Char)
  | code (text : List Char)
  deriving DecidableEq, Repr

def statement (text : List Char) : List Char :=
  '\n' :: (Push.opener ++ (Literal.encoded text ++ Literal.closer ++ ['\n']))

theorem Push.toList_literal (content : String) :
    (Push.literal content).toList =
      '\n' :: (Push.opener ++ (content.toList ++ Literal.closer ++ ['\n'])) := by
  have hopen : "\n__vbuffer.push('".toList = '\n' :: Push.opener := by decide
  have hclose : "');\n".toList = Literal.closer ++ ['\n'] := by decide
  unfold Push.literal
  simp only [String.toList_append, hopen, hclose, List.cons_append, List.append_assoc]

theorem Push.toList_text (s : String) : (Push.text s).toList = statement s.toList := by
  rw [Push.text, Push.toList_literal, Literal.toList_encode]
  rfl

def Piece.written : Piece → List Char
  | .static text => statement text
  | .code text => text

def assemble (ps : List Piece) : List Char := ps.flatMap Piece.written

@[simp] theorem assemble_nil : assemble [] = [] := rfl

@[simp] theorem assemble_cons (p : Piece) (ps : List Piece) :
    assemble (p :: ps) = p.written ++ assemble ps := rfl

@[simp] theorem assemble_append (ps qs : List Piece) :
    assemble (ps ++ qs) = assemble ps ++ assemble qs := List.flatMap_append

theorem assemble_flatten (pss : List (List Piece)) :
    assemble pss.flatten = (pss.map assemble).flatten := by
  induction pss with
  | nil => rfl
  | cons ps pss ih => rw [List.flatten_cons, assemble_append, ih, List.map_cons, List.flatten_cons]

structure Segment where
  text : List Char
  code : List Char
  deriving DecidableEq, Repr

def lead : List Piece → List Char
  | .code c :: ps => c ++ lead ps
  | _ => []

def segments : List Piece → List Segment
  | [] => []
  | .code _ :: ps => segments ps
  | .static s :: ps => ⟨s, lead ps⟩ :: segments ps

/-- The runs of adjacent code pieces; where two static texts are adjacent, the run is empty. -/
def codeRuns (ps : List Piece) : List (List Char) := lead ps :: (segments ps).map Segment.code

def AllCode (P : List Char → Prop) (ps : List Piece) : Prop := ∀ c, .code c ∈ ps → P c

section AllCode

variable {P : List Char → Prop} {ps qs : List Piece}

theorem AllCode.append (hps : AllCode P ps) (hqs : AllCode P qs) : AllCode P (ps ++ qs) := by
  intro c hc
  rcases List.mem_append.1 hc with hc | hc
  · exact hps c hc
  · exact hqs c hc

theorem allCode_static (s : List Char) : AllCode P [.static s] := by
  intro c hc
  exact nomatch List.mem_singleton.1 hc

theorem allCode_code {s : List Char} (h : P s) : AllCode P [.code s] := by
  intro c hc
  cases List.mem_singleton.1 hc
  exact h

theorem AllCode.between (h : AllCode P ps) {before after : List Char} (hbefore : P before)
    (hafter : P after) : AllCode P ([.code before] ++ ps ++ [.code after]) :=
  ((allCode_code hbefore).append h).append (allCode_code hafter)

theorem AllCode.codeRuns (h : AllCode P ps) (hnil : P [])
    (happend : ∀ {s t}, P s → P t → P (s ++ t)) : ∀ run ∈ codeRuns ps, P run := by
  rw [Script.codeRuns, List.forall_mem_cons, List.forall_mem_map]
  induction ps with
  | nil => exact ⟨hnil, nofun⟩
  | cons p ps ih =>
    obtain ⟨hlead, hsegments⟩ := ih fun c hc => h c (List.mem_cons_of_mem p hc)
    cases p with
    | static s => exact ⟨hnil, List.forall_mem_cons.2 ⟨hlead, hsegments⟩⟩
    | code c => exact ⟨happend (h c List.mem_cons_self) hlead, hsegments⟩

end AllCode

def grouped : List Segment → List Segment
  | [] => []
  | g :: gs =>
    match grouped gs with
    | [] => [g]
    | h :: hs => if g.code.all (· == '\n') then ⟨g.text ++ h.text, h.code⟩ :: hs else g :: h :: hs

def writeSegments (gs : List Segment) : List Char := gs.flatMap fun g => statement g.text ++ g.code

def layout (ps : List Piece) : List Char := lead ps ++ writeSegments (grouped (segments ps))

theorem assemble_eq (ps : List Piece) : assemble ps = lead ps ++ writeSegments (segments ps) := by
  induction ps with
  | nil => rfl
  | cons p ps ih =>
    rw [assemble_cons, ih]
    cases p with
    | static s => simp [Piece.written, lead, segments, writeSegments]
    | code c => simp [Piece.written, lead, segments]

def segmentTokens (gs : List Segment) : List Token :=
  gs.flatMap fun g =>
    .char '\n' :: .push (Literal.encoded g.text) :: .char '\n' :: tokens g.code

theorem segmentTokens_cons (g : Segment) (gs : List Segment) :
    segmentTokens (g :: gs) =
      .char '\n' :: .push (Literal.encoded g.text) :: .char '\n' ::
        (tokens g.code ++ segmentTokens gs) := rfl

theorem write_segmentTokens (gs : List Segment) : write (segmentTokens gs) = writeSegments gs := by
  induction gs with
  | nil => rfl
  | cons g gs ih =>
    rw [segmentTokens_cons]
    simp [Token.text, write_tokens, ih, writeSegments, statement]

/-- Code that is read without finding a literal push in it, whatever the next line holds. A push may
seem to begin in it. -/
def Inert (run : List Char) : Prop :=
  ∀ body, Push.opener ++ body <:+ run → Literal.split? body = none ∧ ¬ ['\\'] <:+ body

theorem Inert.suffix {run tail : List Char} (h : Inert run) (htail : tail <:+ run) : Inert tail :=
  fun body hbody => h body (hbody.trans htail)

theorem inert_of_no_opener {run : List Char} (h : ¬ Push.opener <:+: run) : Inert run := by
  intro body hbody
  exact absurd ((List.prefix_append _ _).isInfix.trans hbody.isInfix) h

theorem Inert.push_notMem {run : List Char} (h : Inert run) (x : List Char) :
    .push x ∉ tokens run := by
  fun_induction tokens run with
  | case1 => exact List.not_mem_nil
  | case2 c tail _ ih =>
    intro hmem
    rcases List.mem_cons.1 hmem with hx | htail
    · cases hx
    · exact ih (h.suffix (List.suffix_cons c tail)) htail
  | case3 c tail body hopen _ ih =>
    rw [isPrefixOf?_eq_some_iff.1 hopen] at h
    intro hmem
    rcases List.mem_cons.1 hmem with hx | hbody
    · cases hx
    · exact ih (h.suffix (List.suffix_append _ _)) hbody
  | case4 c tail body hopen content rest hlit =>
    rw [isPrefixOf?_eq_some_iff.1 hopen] at h
    rw [(h body List.suffix_rfl).1] at hlit
    cases hlit

theorem next?_run {run : List Char} (h : Inert run) (ts : List Token) :
    next? (tokens run ++ ts) = if run.all (· == '\n') then next? ts else none := by
  induction run with
  | nil =>
    rw [tokens_nil]
    rfl
  | cons c run ih =>
    by_cases hc : c = '\n'
    · rw [hc, tokens_newline]
      simpa [next?] using ih (h.suffix (List.suffix_cons c run))
    · by_cases hopen : Push.opener <+: c :: run
      · obtain ⟨body, hbody⟩ := hopen
        rw [← hbody] at h
        rw [← hbody, tokens_opener, (h body List.suffix_rfl).1, hbody]
        simp [next?, hc]
      · rw [tokens_char hopen]
        simp [next?, hc]

theorem Inert.tokens_append {run : List Char} (h : Inert run) {rest : List Char}
    (hrest : ∀ c ∈ rest.head?, c = '\n') : tokens (run ++ rest) = tokens run ++ tokens rest := by
  cases rest with
  | nil => rw [tokens_nil, List.append_nil, List.append_nil]
  | cons c rest =>
    obtain rfl : c = '\n' := hrest c rfl
    exact tokens_append_newline (fun body hbody => (h body hbody).2) rest

section Segments

variable {back : List Char} (hback : Inert back)

theorem tokens_segments {run : List Char} {gs : List Segment}
    (hruns : ∀ r ∈ run :: gs.map Segment.code,
      Inert r ∧ tokens (r ++ back) = tokens r ++ tokens back) :
    tokens (run ++ (writeSegments gs ++ back)) =
      tokens run ++ (segmentTokens gs ++ tokens back) := by
  induction gs generalizing run with
  | nil => exact (hruns run List.mem_cons_self).2
  | cons g gs ih =>
    rw [List.map_cons, List.forall_mem_cons] at hruns
    have hnewline : ∀ c ∈ (writeSegments (g :: gs) ++ back).head?, c = '\n' := by
      intro c hc
      exact (Option.some.inj hc).symm
    have hwrite : writeSegments (g :: gs) ++ back =
        '\n' :: (Push.opener ++ (Literal.encoded g.text ++ Literal.closer ++
          ('\n' :: (g.code ++ (writeSegments gs ++ back))))) := by
      simp [writeSegments, statement]
    rw [hruns.1.1.tokens_append hnewline, hwrite, tokens_newline,
      tokens_push (Literal.enclosed_encoded g.text), tokens_newline, ih hruns.2]
    simp [segmentTokens_cons]

include hback

theorem joinTokens_segments {gs : List Segment} (hruns : ∀ r ∈ gs.map Segment.code, Inert r) :
    joinTokens (segmentTokens gs ++ tokens back) = segmentTokens (grouped gs) ++ tokens back := by
  induction gs with
  | nil =>
    have h := joinTokens_append hback.push_notMem []
    simpa [segmentTokens, grouped, joinTokens] using h
  | cons g gs ih =>
    rw [List.map_cons, List.forall_mem_cons] at hruns
    have hjoin : joinTokens (segmentTokens (g :: gs) ++ tokens back) =
        .char '\n' :: joinTokens (.push (Literal.encoded g.text) :: .char '\n' ::
          (tokens g.code ++ (segmentTokens gs ++ tokens back))) := by
      simp [segmentTokens_cons, joinTokens]
    have hrest : joinTokens (.char '\n' ::
        (tokens g.code ++ (segmentTokens gs ++ tokens back))) =
        .char '\n' :: (tokens g.code ++ (segmentTokens (grouped gs) ++ tokens back)) := by
      rw [joinTokens, joinTokens_append hruns.1.push_notMem, ih hruns.2]
    have hnext := next?_run hruns.1 (segmentTokens (grouped gs) ++ tokens back)
    rw [hjoin, joinTokens, hrest, takeOver, neighbour?, hnext, grouped]
    cases grouped gs with
    | nil =>
      have hnone : next? (segmentTokens [] ++ tokens back) = none := by
        have h := next?_run hback []
        rw [List.append_nil] at h
        exact h.trans (ite_self _)
      rw [hnone, ite_self]
      simp [segmentTokens]
    | cons h hs =>
      dsimp only
      by_cases hall : g.code.all (· == '\n') = true
      · rw [if_pos hall, if_pos hall]
        simp [segmentTokens_cons, next?]
      · rw [if_neg hall, if_neg hall]
        simp [segmentTokens_cons]

theorem join_layout_of_inert {ps : List Piece}
    (hruns : ∀ r ∈ codeRuns ps, Inert r ∧ tokens (r ++ back) = tokens r ++ tokens back) :
    join (assemble ps ++ back) = layout ps ++ back := by
  have hinert := List.forall_mem_cons.1 fun r hr => (hruns r hr).1
  rw [assemble_eq, List.append_assoc, join_eq_write, tokens_segments hruns,
    joinTokens_append hinert.1.push_notMem, joinTokens_segments hback hinert.2]
  simp [layout, write_tokens, write_segmentTokens]

end Segments

theorem no_opener_append {run back : List Char} (hrun : ¬ Push.opener <:+: run)
    (hback : Guarded back) : ¬ Push.opener <:+: run ++ back := by
  rintro ⟨pre, post, h⟩
  obtain ⟨b, hb, _⟩ := hback.split (opener_call.trans (List.suffix_append pre _)) h
  exact hrun ⟨pre, b, hb.symm⟩

theorem join_layout {ps : List Piece} {back : List Char} (hback : Guarded back)
    (hruns : ∀ r ∈ codeRuns ps, ¬ Push.opener <:+: r) :
    join (assemble ps ++ back) = layout ps ++ back := by
  have hnil : ¬ Push.opener <:+: [] := by decide
  have hnone : ¬ Push.opener <:+: back := no_opener_append hnil hback
  refine join_layout_of_inert (inert_of_no_opener hnone) fun r hr => ?_
  refine ⟨inert_of_no_opener (hruns r hr), ?_⟩
  rw [tokens_of_no_opener (no_opener_append (hruns r hr) hback), tokens_of_no_opener (hruns r hr),
    tokens_of_no_opener hnone, List.map_append]

end TemplateCode.Script
