import TemplateCode.Script.Lexical

/-! What can stand between the quotes of a literal. The scan accepts exactly the enclosed contents
that the closer follows, and the encoding of any text is enclosed. -/

namespace TemplateCode.Script.Literal

def Plain (c : Char) : Prop := c ≠ '\\' ∧ c ≠ '\'' ∧ c ≠ '\n' ∧ c ≠ '\r'

instance : DecidablePred Plain := fun c =>
  inferInstanceAs (Decidable (c ≠ '\\' ∧ c ≠ '\'' ∧ c ≠ '\n' ∧ c ≠ '\r'))

/-- A content with no bare quote, no bare line break and no backslash that escapes nothing. -/
inductive Enclosed : List Char → Prop
  | nil : Enclosed []
  | escape {rest : List Char} (c : Char) : Enclosed rest → Enclosed ('\\' :: c :: rest)
  | plain {c : Char} {rest : List Char} : Plain c → Enclosed rest → Enclosed (c :: rest)

theorem Enclosed.append {x y : List Char} (hx : Enclosed x) (hy : Enclosed y) :
    Enclosed (x ++ y) := by
  induction hx with
  | nil => exact hy
  | escape c _ ih => exact ih.escape c
  | plain hc _ ih => exact ih.plain hc

theorem enclosed_of_plain {x : List Char} (h : ∀ c ∈ x, Plain c) : Enclosed x := by
  induction x with
  | nil => exact .nil
  | cons c x ih =>
    exact (ih fun d hd => h d (List.mem_cons_of_mem c hd)).plain (h c List.mem_cons_self)

theorem enclosed_of_scan {seen body content rest : List Char}
    (h : scan seen body = some (content, rest)) :
    ∃ x, Enclosed x ∧ content = seen.reverse ++ x ∧ body = x ++ closer ++ rest := by
  fun_induction scan seen body with
  | case1 | case2 | case5 => simp at h
  | case3 seen c tail ih =>
    obtain ⟨x, hx, rfl, rfl⟩ := ih h
    exact ⟨'\\' :: c :: x, hx.escape c, by simp, rfl⟩
  | case4 seen tail =>
    simp only [Option.some.injEq, Prod.mk.injEq] at h
    obtain ⟨rfl, rfl⟩ := h
    exact ⟨[], .nil, by simp, rfl⟩
  | case6 seen c tail _ hmore _ hstop ih =>
    obtain ⟨x, hx, rfl, rfl⟩ := ih h
    simp only [not_or] at hstop
    -- The text goes on after `c`, at the latest with the closer, so `c` is no lone backslash.
    have hb : c ≠ '\\' := by
      rintro rfl
      cases x with
      | nil => exact hmore _ _ rfl rfl
      | cons d tail => exact hmore _ _ rfl rfl
    exact ⟨c :: x, hx.plain ⟨hb, hstop⟩, by simp, rfl⟩

theorem scan_plain {c : Char} (hc : Plain c) (seen rest : List Char) :
    scan seen (c :: rest) = scan (c :: seen) rest := by
  obtain ⟨hb, hq, hn, hr⟩ := hc
  rw [scan.eq_def]
  split <;> simp_all

theorem scan_append {x : List Char} (hx : Enclosed x) (seen rest : List Char) :
    scan seen (x ++ closer ++ rest) = some (seen.reverse ++ x, rest) := by
  induction hx generalizing seen with
  | nil => simp [closer, scan]
  | escape c _ ih =>
    simp only [List.cons_append, scan]
    rw [ih]
    simp
  | plain hc _ ih =>
    rw [List.cons_append, List.cons_append, scan_plain hc, ih]
    simp

theorem split?_eq_some_iff {body content rest : List Char} :
    split? body = some (content, rest) ↔ Enclosed content ∧ body = content ++ closer ++ rest := by
  constructor
  · intro h
    obtain ⟨x, hx, rfl, hbody⟩ := enclosed_of_scan h
    exact ⟨hx, hbody⟩
  · rintro ⟨hx, rfl⟩
    exact scan_append hx [] rest

abbrev encoded (text : List Char) : List Char := text.flatMap encodeChar

theorem toList_encode (text : String) : (encode text).toList = encoded text.toList := by
  rw [encode, String.toList_ofList]

theorem encodeChar_cases (c : Char) :
    (∃ d rest, encodeChar c = '\\' :: d :: rest ∧ ∀ e ∈ rest, Plain e) ∨
      (encodeChar c = [c] ∧ Plain c) := by
  fun_cases encodeChar c with
  | case1 | case2 | case3 | case4 | case5 | case6 => exact .inl ⟨_, _, rfl, by simp [Plain]⟩
  | case7 _ hb hq hn hr => exact .inr ⟨rfl, hb, hq, hn, hr⟩

theorem enclosed_encodeChar (c : Char) : Enclosed (encodeChar c) := by
  rcases encodeChar_cases c with ⟨d, rest, he, hrest⟩ | ⟨he, hc⟩
  · rw [he]
    exact (enclosed_of_plain hrest).escape d
  · rw [he]
    exact Enclosed.nil.plain hc

theorem enclosed_encoded (text : List Char) : Enclosed (encoded text) := by
  induction text with
  | nil => exact .nil
  | cons c text ih => exact (enclosed_encodeChar c).append ih

def lineBreaks : List Char := ['\n', '\r', '\u2028', '\u2029']

theorem lineBreak_notMem_encodeChar (c : Char) : ∀ b ∈ lineBreaks, b ∉ encodeChar c := by
  fun_cases encodeChar c with
  | case1 | case2 | case3 | case4 | case5 | case6 => simp [lineBreaks]
  | case7 _ _ _ hn hr hl hp =>
    intro b hb hc
    cases List.mem_singleton.1 hc
    simp only [lineBreaks, List.mem_cons, List.not_mem_nil, or_false] at hb
    exact hb.elim hn (Or.elim · hr (Or.elim · hl hp))

theorem lineBreak_notMem_encoded (text : List Char) : ∀ b ∈ lineBreaks, b ∉ encoded text := by
  intro b hb h
  obtain ⟨c, _, hc⟩ := List.mem_flatMap.1 h
  exact lineBreak_notMem_encodeChar c b hb hc

theorem newline_notMem_encoded (text : List Char) : '\n' ∉ encoded text :=
  lineBreak_notMem_encoded text '\n' List.mem_cons_self

end TemplateCode.Script.Literal
