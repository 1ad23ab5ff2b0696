import TemplateCode.Proofs.Collapse
import TemplateCode.Proofs.Layout

/-! Scripts with the bodies of their single-quoted literals erased. Of pieces whose code has neither
quotes nor backslashes, the erased layout shows the code and where static texts stand, but nothing of
what they say. -/

namespace TemplateCode.Script

/-- A text without the bodies of its single-quoted literals, read from left to right; `inside` tells
whether it begins inside one. A backslash takes the next character with it. -/
def erase (inside : Bool) : List Char → List Char
  | [] => []
  | '\\' :: c :: rest => if inside then erase true rest else '\\' :: c :: erase false rest
  | '\'' :: rest => '\'' :: erase (!inside) rest
  | c :: rest => if inside then erase true rest else c :: erase false rest

def eraseLiterals (source : String) : String := String.ofList (erase false source.toList)

theorem erase_plain {c : Char} (hq : c ≠ '\'') (hb : c ≠ '\\') (inside : Bool) (rest : List Char) :
    erase inside (c :: rest) = if inside then erase true rest else c :: erase false rest := by
  rw [erase]
  · intro d tail h
    exact absurd h hb
  · exact hq

theorem erase_content {x : List Char} (hx : Literal.Enclosed x) (rest : List Char) :
    erase true (x ++ rest) = erase true rest := by
  induction hx with
  | nil => rfl
  | escape c _ ih => rw [List.cons_append, List.cons_append, erase, if_pos rfl, ih]
  | plain hc _ ih => rw [List.cons_append, erase_plain hc.2.1 hc.1, if_pos rfl, ih]

def Unquoted (text : List Char) : Prop := '\'' ∉ text ∧ '\\' ∉ text

instance : DecidablePred Unquoted := fun text =>
  inferInstanceAs (Decidable ('\'' ∉ text ∧ '\\' ∉ text))

theorem Unquoted.append {s t : List Char} (hs : Unquoted s) (ht : Unquoted t) :
    Unquoted (s ++ t) := by
  constructor
  · rw [List.mem_append, not_or]
    exact ⟨hs.1, ht.1⟩
  · rw [List.mem_append, not_or]
    exact ⟨hs.2, ht.2⟩

theorem Unquoted.sublist {s t : List Char} (ht : Unquoted t) (h : s.Sublist t) : Unquoted s :=
  ⟨fun hm => ht.1 (h.subset hm), fun hm => ht.2 (h.subset hm)⟩

theorem erase_code {code : List Char} (hcode : Unquoted code) (rest : List Char) :
    erase false (code ++ rest) = code ++ erase false rest := by
  induction code with
  | nil => rfl
  | cons c code ih =>
    have hq : c ≠ '\'' := fun h => hcode.1 (h ▸ List.mem_cons_self)
    have hb : c ≠ '\\' := fun h => hcode.2 (h ▸ List.mem_cons_self)
    have hrest : Unquoted code := hcode.sublist (List.sublist_cons_self c code)
    rw [List.cons_append, erase_plain hq hb, if_neg Bool.false_ne_true, ih hrest]
    rfl

theorem erase_literal {x : List Char} (hx : Literal.Enclosed x) (rest : List Char) :
    erase false (Push.opener ++ (x ++ Literal.closer ++ rest)) =
      Push.opener ++ (Literal.closer ++ erase false rest) := by
  have hcall : Push.opener ++ (x ++ Literal.closer ++ rest) =
      Push.opener.dropLast ++ ('\'' :: (x ++ (Literal.closer ++ rest))) := by
    simp [Push.opener]
  have hunquoted : Unquoted Push.opener.dropLast := by
    simp [Unquoted, Push.opener]
  rw [hcall, erase_code hunquoted, erase, Bool.not_false, erase_content hx]
  simp [Push.opener, Literal.closer, erase]

theorem erase_squeeze_code {code : List Char} (hcode : Unquoted code) (broken : Bool)
    (rest : List Char) :
    erase false (squeeze broken (code ++ rest)) =
      squeeze broken code ++ erase false (squeeze (ends broken code) rest) := by
  rw [squeeze_append, erase_code (hcode.sublist (squeeze_sublist broken code))]

theorem squeeze_statement (broken : Bool) (text rest : List Char) :
    squeeze broken (statement text ++ rest) =
      squeeze broken ['\n'] ++ (Push.opener ++ (Literal.encoded text ++ Literal.closer ++
        ('\n' :: squeeze true rest))) := by
  have hparts : statement text ++ rest =
      ['\n'] ++ ((Push.opener ++ (Literal.encoded text ++ Literal.closer)) ++ '\n' :: rest) := by
    simp [statement]
  have hline : '\n' ∉ Push.opener ++ (Literal.encoded text ++ Literal.closer) := by
    have h := Literal.newline_notMem_encoded text
    simpa [Push.opener, Literal.closer] using h
  rw [hparts, squeeze_append, squeeze_line hline (by simp [Push.opener]), List.append_assoc]

theorem unquoted_newline : Unquoted ['\n'] := by simp [Unquoted]

theorem erase_squeeze_statement (broken : Bool) (text rest : List Char) :
    erase false (squeeze broken (statement text ++ rest)) =
      squeeze broken ['\n'] ++ (Push.opener ++ (Literal.closer ++
        ('\n' :: erase false (squeeze true rest)))) := by
  have hbreak : Unquoted (squeeze broken ['\n']) :=
    unquoted_newline.sublist (squeeze_sublist broken ['\n'])
  have hnewline : ∀ tail, erase false ('\n' :: tail) = '\n' :: erase false tail :=
    erase_code unquoted_newline
  rw [squeeze_statement, erase_code hbreak, erase_literal (Literal.enclosed_encoded text), hnewline]

def Piece.hide : Piece → Piece
  | .static _ => .static []
  | .code c => .code c

def Segment.hide (g : Segment) : Segment := ⟨[], g.code⟩

theorem lead_hide (ps : List Piece) : lead (ps.map Piece.hide) = lead ps := by
  induction ps with
  | nil => rfl
  | cons p ps ih =>
    cases p with
    | static s => rfl
    | code c => rw [List.map_cons, Piece.hide, lead, lead, ih]

theorem segments_hide (ps : List Piece) :
    segments (ps.map Piece.hide) = (segments ps).map Segment.hide := by
  induction ps with
  | nil => rfl
  | cons p ps ih =>
    cases p with
    | static s => rw [List.map_cons, Piece.hide, segments, segments, lead_hide, ih]; rfl
    | code c => exact ih

theorem grouped_hide (gs : List Segment) :
    grouped (gs.map Segment.hide) = (grouped gs).map Segment.hide := by
  induction gs with
  | nil => rfl
  | cons g gs ih =>
    rw [List.map_cons, grouped, ih, grouped]
    cases grouped gs with
    | nil => rfl
    | cons h hs =>
      show (if g.code.all (· == '\n') then _ else _) = List.map Segment.hide (if _ then _ else _)
      split <;> rfl

def Quiet (ps : List Piece) : Prop := ∀ c, .code c ∈ ps → Unquoted c

theorem mem_hide {c : List Char} {ps : List Piece} :
    .code c ∈ ps.map Piece.hide ↔ .code c ∈ ps := by
  rw [List.mem_map]
  constructor
  · rintro ⟨p, hp, hc⟩
    cases p with
    | static s => exact nomatch hc
    | code d =>
      obtain rfl : d = c := Piece.code.inj hc
      exact hp
  · intro hc
    exact ⟨.code c, hc, rfl⟩

theorem Quiet.codeRuns {ps : List Piece} (h : Quiet ps) : ∀ run ∈ codeRuns ps, Unquoted run :=
  AllCode.codeRuns h ⟨List.not_mem_nil, List.not_mem_nil⟩ Unquoted.append

theorem Quiet.lead {ps : List Piece} (h : Quiet ps) : Unquoted (lead ps) :=
  h.codeRuns _ List.mem_cons_self

theorem Quiet.segments {ps : List Piece} (h : Quiet ps) : ∀ g ∈ segments ps, Unquoted g.code :=
  fun _ hg => h.codeRuns _ (List.mem_cons_of_mem _ (List.mem_map_of_mem hg))

theorem unquoted_grouped {gs : List Segment} (h : ∀ g ∈ gs, Unquoted g.code) :
    ∀ g ∈ grouped gs, Unquoted g.code := by
  induction gs with
  | nil => nofun
  | cons g gs ih =>
    rw [List.forall_mem_cons] at h
    have hrest := ih h.2
    rw [grouped]
    cases hgroups : grouped gs with
    | nil => exact List.forall_mem_singleton.2 h.1
    | cons k ks =>
      rw [hgroups] at hrest
      show ∀ q ∈ if g.code.all (· == '\n') then _ else _, _
      split
      · exact List.forall_mem_cons.2 (List.forall_mem_cons.1 hrest)
      · exact List.forall_mem_cons.2 ⟨h.1, hrest⟩

theorem erase_squeeze_segments (broken : Bool) {run : List Char} (hrun : Unquoted run)
    {gs : List Segment} (hgs : ∀ g ∈ gs, Unquoted g.code) (back : List Char) :
    erase false (squeeze broken (run ++ (writeSegments gs ++ back))) =
      erase false (squeeze broken (run ++ (writeSegments (gs.map Segment.hide) ++ back))) := by
  induction gs generalizing broken run with
  | nil => rfl
  | cons g gs ih =>
    have hcons : ∀ (h : Segment) (hs : List Segment), writeSegments (h :: hs) ++ back =
        statement h.text ++ (h.code ++ (writeSegments hs ++ back)) := by
      intro h hs
      simp [writeSegments]
    rw [List.forall_mem_cons] at hgs
    rw [List.map_cons, hcons, hcons, erase_squeeze_code hrun, erase_squeeze_code hrun,
      erase_squeeze_statement, erase_squeeze_statement, ih true hgs.1 hgs.2]
    rfl

/-- Of quiet pieces, laid out and shortened after unquoted text, erasing leaves nothing that depends
on the static texts. -/
theorem erase_collapse_layout {run : List Char} (hrun : Unquoted run) {ps : List Piece}
    (hps : Quiet ps) (back : List Char) :
    erase false (collapse (run ++ layout ps ++ back)) =
      erase false (collapse (run ++ layout (ps.map Piece.hide) ++ back)) := by
  have hparts : ∀ qs : List Piece, run ++ layout qs ++ back =
      (run ++ lead qs) ++ (writeSegments (grouped (segments qs)) ++ back) := by
    intro qs
    simp [layout]
  rw [collapse_eq_squeeze, collapse_eq_squeeze, hparts, hparts, lead_hide, segments_hide,
    grouped_hide, erase_squeeze_segments false (hrun.append hps.lead)
      (unquoted_grouped hps.segments)]

end TemplateCode.Script
