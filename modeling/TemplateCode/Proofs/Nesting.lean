import TemplateCode.Json.Reader
import TemplateCode.Proofs.Spelling

/-! How deep documents nest. The reader takes the tokens of a document exactly if it nests no deeper
than the limit, and the depth of a document is the number of brackets open at once in its text. -/

namespace TemplateCode.Json

mutual
def depth : Json → Nat
  | .array items => depthItems items + 1
  | .object fields => depthFields fields + 1
  | .null | .bool _ | .number _ | .string _ => 0

def depthItems : List Json → Nat
  | [] => 0
  | item :: rest => max item.depth (depthItems rest)

def depthFields : List (String × Json) → Nat
  | [] => 0
  | (_, value) :: rest => max value.depth (depthFields rest)
end

section Reader

variable {most size : Nat}

/-- A reader that has been as deep as said: it goes on only if that is within the limit. -/
def Reader.within (most depth : Nat) (reader : Reader) : Reader :=
  if depth ≤ most then reader else .refused

theorem Reader.foldl_within (depth : Nat) (reader : Reader) (found : List Token) :
    found.foldl (Reader.step (some most)) (reader.within most depth) =
      (found.foldl (Reader.step (some most)) reader).within most depth := by
  have hrefused : found.foldl (Reader.step (some most)) .refused = .refused := by
    induction found with
    | nil => rfl
    | cons token rest ih =>
      have hstep : Reader.step (some most) .refused token = .refused := by cases token <;> rfl
      rw [List.foldl_cons, hstep, ih]
  unfold Reader.within
  split
  · rfl
  · exact hrefused

theorem Reader.within_within (depth deeper : Nat) (reader : Reader) :
    (reader.within most depth).within most deeper = reader.within most (max depth deeper) := by
  unfold Reader.within
  by_cases hdepth : depth ≤ most
  · by_cases hdeeper : deeper ≤ most
    · rw [if_pos hdepth, if_pos hdeeper, if_pos (Nat.max_le.2 ⟨hdepth, hdeeper⟩)]
    · rw [if_neg hdeeper, if_neg fun h => hdeeper (Nat.max_le.1 h).2]
  · rw [if_neg hdepth, ite_self, if_neg fun h => hdepth (Nat.max_le.1 h).1]

/-- The tokens lead from one reader, with `size` brackets open, to another one, and open at most
`depth` more brackets on the way. -/
def Reads (most size : Nat) (start : Reader) (found : List Token) (finish : Reader) (depth : Nat) :
    Prop :=
  found.foldl (Reader.step (some most)) (start.within most size) = finish.within most (size + depth)

theorem Reads.append {r₁ r₂ r₃ : Reader} {xs ys : List Token} {d e : Nat}
    (hxs : Reads most size r₁ xs r₂ d) (hys : Reads most size r₂ ys r₃ e) :
    Reads most size r₁ (xs ++ ys) r₃ (max d e) := by
  have hdeeper : r₂.within most (size + d) = (r₂.within most size).within most (size + d) := by
    rw [Reader.within_within, Nat.max_eq_right (Nat.le_add_right size d)]
  unfold Reads at *
  rw [List.foldl_append, hxs, hdeeper, Reader.foldl_within, hys, Reader.within_within,
    Nat.add_max_add_left, Nat.max_comm]

theorem reads_token {start finish : Reader} {token : Token}
    (h : Reader.step (some most) start token = finish) :
    Reads most size start [token] finish 0 := by
  rw [Reads, Reader.foldl_within, List.foldl_cons, List.foldl_nil, h, Nat.add_zero]

theorem Reads.cons {r₁ r₂ r₃ : Reader} {token : Token} {xs : List Token} {d : Nat}
    (h : Reads most size r₂ xs r₃ d) (htoken : Reader.step (some most) r₁ token = r₂) :
    Reads most size r₁ (token :: xs) r₃ d := by
  have happend := (reads_token htoken).append h
  rwa [Nat.zero_max] at happend

theorem Reads.concat {r₁ r₂ r₃ : Reader} {token : Token} {xs : List Token} {d : Nat}
    (h : Reads most size r₁ xs r₂ d) (htoken : Reader.step (some most) r₂ token = r₃) :
    Reads most size r₁ (xs ++ [token]) r₃ d := by
  have happend := h.append (reads_token htoken)
  rwa [Nat.max_zero] at happend

theorem Reads.bracketed {stack : List Frame} {opening : Token} {inside finish : Reader}
    {xs : List Token} {d : Nat} (h : Reads most (stack.length + 1) inside xs finish d)
    (hopening : Reader.step (some most) (.value stack) opening =
      inside.within most (stack.length + 1)) :
    Reads most stack.length (.value stack) (opening :: xs) finish (d + 1) := by
  unfold Reads at *
  rw [Reader.foldl_within, List.foldl_cons, hopening, h, Reader.within_within, ← Nat.add_assoc,
    Nat.add_right_comm stack.length d 1, Nat.max_eq_left (by omega)]

theorem reads_firstItem {items : List Json} (h : items ≠ []) {stack : List Frame} {finish : Reader}
    {d : Nat} (hitems : Reads most size (.value (.array [] :: stack))
      ([Token.comma].intercalate (spellItems items)) finish d) :
    Reads most size (.firstItem stack) ([Token.comma].intercalate (spellItems items)) finish d := by
  unfold Reads at *
  rw [Reader.foldl_within] at *
  rw [← hitems]
  -- No document begins with the end of an array.
  match items with
  | [item] => cases item <;> rfl
  | item :: next :: rest => cases item <;> rfl

theorem reads_firstKey {fields : List (String × Json)} (h : fields ≠ []) {stack : List Frame}
    {finish : Reader} {d : Nat} (hfields : Reads most size (.nextKey [] stack)
      ([Token.comma].intercalate (spellFields fields)) finish d) :
    Reads most size (.firstKey stack)
      ([Token.comma].intercalate (spellFields fields)) finish d := by
  unfold Reads at *
  rw [Reader.foldl_within] at *
  rw [← hfields]
  match fields with
  | [field] => rfl
  | field :: next :: rest => rfl

theorem Reads.field {key : String} {earlier : List (String × Json)} {stack : List Frame}
    {xs : List Token} {finish : Reader} {d : Nat}
    (h : Reads most size (.value (.object earlier key :: stack)) xs finish d) :
    Reads most size (.nextKey earlier stack) (.string (some key) :: .colon :: xs) finish d := by
  have hcolon : Reader.step (some most) (.colon earlier key stack) .colon =
      .value (.object earlier key :: stack) := rfl
  exact (h.cons hcolon).cons rfl

variable (most)

mutual
theorem reads_spelling (document : Json) (stack : List Frame) :
    Reads most stack.length (.value stack) (spelling document) (Reader.accept document stack)
      document.depth := by
  match document with
  | .null | .bool _ | .number _ | .string _ =>
    rw [spelling, depth]
    exact reads_token rfl
  | .array items =>
    have hopen : Reader.step (some most) (.value stack) .arrayStart =
        (Reader.firstItem stack).within most (stack.length + 1) := rfl
    rw [spelling, depth]
    match items with
    | [] => exact (reads_token rfl).bracketed hopen
    | item :: rest =>
      have hne := List.cons_ne_nil item rest
      have hitems := reads_firstItem hne (reads_spellItems (item :: rest) hne [] stack)
      refine (hitems.concat ?_).bracketed hopen
      rw [List.append_nil, Reader.step, List.reverse_reverse]
  | .object fields =>
    have hopen : Reader.step (some most) (.value stack) .objectStart =
        (Reader.firstKey stack).within most (stack.length + 1) := rfl
    rw [spelling, depth]
    match fields with
    | [] => exact (reads_token rfl).bracketed hopen
    | field :: rest =>
      have hne := List.cons_ne_nil field rest
      have hfields := reads_firstKey hne (reads_spellFields (field :: rest) hne [] stack)
      refine (hfields.concat ?_).bracketed hopen
      rw [List.append_nil, Reader.step, List.reverse_reverse]

theorem reads_spellItems (items : List Json) (h : items ≠ []) (earlier : List Json)
    (stack : List Frame) :
    Reads most (stack.length + 1) (.value (.array earlier :: stack))
      ([Token.comma].intercalate (spellItems items))
      (.afterItem (items.reverse ++ earlier) stack) (depthItems items) := by
  match items with
  | [] => exact absurd rfl h
  | [item] =>
    have hitem := reads_spelling item (.array earlier :: stack)
    simpa [spellItems, depthItems, Reader.accept] using hitem
  | item :: next :: rest =>
    have hitem := reads_spelling item (.array earlier :: stack)
    have hrest := reads_spellItems (next :: rest) (List.cons_ne_nil next rest) (item :: earlier)
      stack
    have hcomma : Reader.step (some most) (Reader.accept item (.array earlier :: stack)) .comma =
        .value (.array (item :: earlier) :: stack) := rfl
    rw [spellItems, spellItems, List.intercalate_cons_cons, ← spellItems, List.reverse_cons,
      List.append_assoc, List.append_assoc, depthItems]
    exact hitem.append (hrest.cons hcomma)

theorem reads_spellFields (fields : List (String × Json)) (h : fields ≠ [])
    (earlier : List (String × Json)) (stack : List Frame) :
    Reads most (stack.length + 1) (.nextKey earlier stack)
      ([Token.comma].intercalate (spellFields fields))
      (.afterField (fields.reverse ++ earlier) stack) (depthFields fields) := by
  match fields with
  | [] => exact absurd rfl h
  | [(key, value)] =>
    have hvalue := reads_spelling value (.object earlier key :: stack)
    simpa [spellFields, depthFields, Reader.accept] using hvalue.field
  | (key, value) :: next :: rest =>
    have hvalue := reads_spelling value (.object earlier key :: stack)
    have hrest := reads_spellFields (next :: rest) (List.cons_ne_nil next rest)
      ((key, value) :: earlier) stack
    have hcomma : Reader.step (some most) (Reader.accept value (.object earlier key :: stack))
        .comma = .nextKey ((key, value) :: earlier) stack := rfl
    rw [spellFields, spellFields, List.intercalate_cons_cons, ← spellFields, List.reverse_cons,
      List.append_assoc, List.append_assoc, depthFields]
    exact hvalue.field.append (hrest.cons hcomma)
end

theorem ofTokens?_spelling (document : Json) :
    ofTokens? (some most) (spelling document) =
      if document.depth ≤ most then some document else none := by
  have hread := reads_spelling most document []
  have hstart : (Reader.value []).within most 0 = .value [] := if_pos (Nat.zero_le most)
  rw [Reads, List.length_nil, hstart, Nat.zero_add] at hread
  rw [ofTokens?, hread]
  by_cases h : document.depth ≤ most
  · rw [Reader.within, if_pos h, if_pos h]
    rfl
  · rw [Reader.within, if_neg h, if_neg h]

end Reader

inductive Region where
  | outside
  | string
  | escape

structure Openings where
  region : Region
  now : Nat
  most : Nat

/-- The count after one more character. Brackets inside of strings do not count. -/
def Openings.step (o : Openings) (c : Char) : Openings :=
  match o.region with
  | .escape => { o with region := .string }
  | .string =>
    if c = '"' then { o with region := .outside }
    else if c = '\\' then { o with region := .escape }
    else o
  | .outside =>
    if c = '"' then { o with region := .string }
    else if c = '[' ∨ c = '{' then ⟨.outside, o.now + 1, max o.most (o.now + 1)⟩
    else if c = ']' ∨ c = '}' then ⟨.outside, o.now - 1, o.most⟩
    else o

def mostOpen (text : String) : Nat := (text.toList.foldl Openings.step ⟨.outside, 0, 0⟩).most

section Openings

theorem hexDigit_ne : ∀ n < 16, hexDigit n ≠ '"' ∧ hexDigit n ≠ '\\' := by decide

variable {now : Nat}

theorem count_encodeChar {most : Nat} (c : Char) :
    (encodeChar c).foldl Openings.step ⟨.string, now, most⟩ = ⟨.string, now, most⟩ := by
  fun_cases encodeChar c with
  | case1 | case2 | case3 | case4 | case5 | case6 | case7 => rfl
  | case8 c _ _ _ _ _ _ _ hcontrol =>
    have hhigh := hexDigit_ne (c.toNat / 16) (by omega)
    have hlow := hexDigit_ne (c.toNat % 16) (by omega)
    simp [Openings.step, hhigh, hlow]
  | case9 c hquote hbackslash _ _ _ _ _ hplain =>
    simp [Openings.step, if_neg hquote, if_neg hbackslash]

theorem count_quoted {most : Nat} (s : String) :
    (quoted s).toList.foldl Openings.step ⟨.outside, now, most⟩ = ⟨.outside, now, most⟩ := by
  have hopen : Openings.step ⟨.outside, now, most⟩ '"' = ⟨.string, now, most⟩ := rfl
  have hclose : Openings.step ⟨.string, now, most⟩ '"' = ⟨.outside, now, most⟩ := rfl
  have hchars : ∀ chars : List Char, (chars.flatMap encodeChar).foldl Openings.step
      ⟨.string, now, most⟩ = ⟨.string, now, most⟩ := by
    intro chars
    induction chars with
    | nil => rfl
    | cons c rest ih => rw [List.flatMap_cons, List.foldl_append, count_encodeChar, ih]
  simp [quoted, hopen, hchars, hclose]

def Counts (found : List Token) (depth : Nat) : Prop :=
  ∀ now most, (found.flatMap Token.text).foldl Openings.step ⟨.outside, now, max most now⟩ =
    ⟨.outside, now, max most (now + depth)⟩

theorem Counts.append {xs ys : List Token} {d e : Nat} (hxs : Counts xs d) (hys : Counts ys e) :
    Counts (xs ++ ys) (max d e) := by
  intro now most
  have hdeeper : max most (now + d) = max (max most (now + d)) now := by omega
  rw [List.flatMap_append, List.foldl_append, hxs, hdeeper, hys, Nat.max_assoc,
    Nat.add_max_add_left]

theorem counts_nil : Counts [] 0 := fun _ _ => rfl

theorem Counts.cons {token : Token} {xs : List Token} {d : Nat} (h : Counts xs d)
    (htoken : Counts [token] 0) : Counts (token :: xs) d := by
  have happend := htoken.append h
  rwa [Nat.zero_max] at happend

theorem counts_string (s : String) : Counts [.string (some s)] 0 := by
  intro now most
  rw [List.flatMap_singleton, Token.text]
  exact count_quoted s

theorem Counts.comma {xs : List Token} {d : Nat} (h : Counts xs d) : Counts (.comma :: xs) d :=
  h.cons fun _ _ => rfl

theorem Counts.field {xs : List Token} {d : Nat} (h : Counts xs d) (key : String) :
    Counts (.string (some key) :: .colon :: xs) d := by
  have hcolon : Counts (.colon :: xs) d := h.cons fun _ _ => rfl
  exact hcolon.cons (counts_string key)

theorem Counts.bracketed {opening closing : Token} {xs : List Token} {d : Nat} (h : Counts xs d)
    (hopening : ∀ now most, opening.text.foldl Openings.step ⟨.outside, now, most⟩ =
      ⟨.outside, now + 1, max most (now + 1)⟩)
    (hclosing : ∀ now most, closing.text.foldl Openings.step ⟨.outside, now, most⟩ =
      ⟨.outside, now - 1, most⟩) :
    Counts (opening :: xs ++ [closing]) (d + 1) := by
  intro now most
  have hmost : max (max most now) (now + 1) = max most (now + 1) := by
    rw [Nat.max_assoc, Nat.max_eq_right (Nat.le_succ now)]
  rw [List.flatMap_append, List.flatMap_cons, List.foldl_append, List.foldl_append, hopening, hmost,
    h, List.flatMap_singleton, hclosing, Nat.add_right_comm, Nat.add_assoc, Nat.add_sub_cancel]

mutual
theorem counts_spelling (document : Json) (h : document.NumberFree) :
    Counts (spelling document) document.depth := by
  match document with
  | .null | .bool true | .bool false =>
    rw [spelling, depth]
    exact fun _ _ => rfl
  | .string s =>
    rw [spelling, depth]
    exact counts_string s
  | .number n =>
    rw [NumberFree] at h
    exact h.elim
  | .array items =>
    rw [NumberFree] at h
    have hitems := counts_spellItems items h
    rw [spelling, depth]
    exact hitems.bracketed (fun _ _ => rfl) (fun _ _ => rfl)
  | .object fields =>
    rw [NumberFree] at h
    have hfields := counts_spellFields fields h
    rw [spelling, depth]
    exact hfields.bracketed (fun _ _ => rfl) (fun _ _ => rfl)

theorem counts_spellItems (items : List Json) (h : AllNumberFree items) :
    Counts ([Token.comma].intercalate (spellItems items)) (depthItems items) := by
  match items with
  | [] =>
    rw [spellItems, depthItems]
    exact counts_nil
  | [item] =>
    rw [AllNumberFree] at h
    have hitem := counts_spelling item h.1
    simpa [spellItems, depthItems] using hitem
  | item :: next :: rest =>
    rw [AllNumberFree] at h
    have hitem := counts_spelling item h.1
    have hrest := counts_spellItems (next :: rest) h.2
    rw [spellItems, spellItems, List.intercalate_cons_cons, ← spellItems, List.append_assoc,
      depthItems]
    exact hitem.append hrest.comma

theorem counts_spellFields (fields : List (String × Json)) (h : FieldsNumberFree fields) :
    Counts ([Token.comma].intercalate (spellFields fields)) (depthFields fields) := by
  match fields with
  | [] =>
    rw [spellFields, depthFields]
    exact counts_nil
  | [(key, value)] =>
    rw [FieldsNumberFree] at h
    have hvalue := counts_spelling value h.1
    simpa [spellFields, depthFields] using hvalue.field key
  | (key, value) :: next :: rest =>
    rw [FieldsNumberFree] at h
    have hvalue := counts_spelling value h.1
    have hrest := counts_spellFields (next :: rest) h.2
    rw [spellFields, spellFields, List.intercalate_cons_cons, ← spellFields, List.append_assoc,
      depthFields]
    exact (hvalue.field key).append hrest.comma
end

theorem mostOpen_compact {document : Json} (h : document.NumberFree) :
    mostOpen (compact document) = document.depth := by
  have hcount := counts_spelling document h 0 0
  rw [Nat.max_self, Nat.zero_add, Nat.zero_max] at hcount
  rw [mostOpen, toList_compact, hcount]

end Openings

end TemplateCode.Json
