import TemplateCode.Proofs.LooseText

/-! The tokens that a compact text is made of, and the scanner that finds them again. Numerals are
left aside: a numeral has no end of its own, and a document of a tree holds none. -/

namespace TemplateCode.Json

def Token.text : Token → List Char
  | .arrayStart => ['[']
  | .arrayEnd => [']']
  | .objectStart => ['{']
  | .objectEnd => ['}']
  | .comma => [',']
  | .colon => [':']
  | .null => "null".toList
  | .bool true => "true".toList
  | .bool false => "false".toList
  | .number (some n) => n.text.toList
  | .string (some s) => (quoted s).toList
  | .number none | .string none | .fault => []

mutual
/-- The tokens of a document in the order of its compact text. -/
def spelling : Json → List Token
  | .null => [.null]
  | .bool b => [.bool b]
  | .number n => [.number (some n)]
  | .string s => [.string (some s)]
  | .array items => .arrayStart :: [Token.comma].intercalate (spellItems items) ++ [.arrayEnd]
  | .object fields => .objectStart :: [Token.comma].intercalate (spellFields fields) ++ [.objectEnd]

def spellItems : List Json → List (List Token)
  | [] => []
  | item :: rest => spelling item :: spellItems rest

def spellFields : List (String × Json) → List (List Token)
  | [] => []
  | (key, value) :: rest => (.string (some key) :: .colon :: spelling value) :: spellFields rest
end

theorem flatMap_intercalate {α β : Type} (f : α → List β) (separator : α) (groups : List (List α)) :
    ([separator].intercalate groups).flatMap f =
      (f separator).intercalate (groups.map (·.flatMap f)) := by
  induction groups with
  | nil => rfl
  | cons group rest ih =>
    cases rest with
    | nil => simp
    | cons next rest =>
      rw [List.intercalate_cons_cons, List.map_cons, List.map_cons, List.intercalate_cons_cons,
        ← List.map_cons, ← ih]
      simp

mutual
theorem toList_compact (document : Json) :
    (compact document).toList = (spelling document).flatMap Token.text := by
  match document with
  | .null => simp [compact, spelling, Token.text]
  | .bool true => simp [compact, spelling, Token.text]
  | .bool false => simp [compact, spelling, Token.text]
  | .number n => simp [compact, spelling, Token.text]
  | .string s => simp [compact, spelling, Token.text]
  | .array items =>
    have hitems := toList_compactItems items
    simp [compact, spelling, flatMap_intercalate, hitems, Token.text]
  | .object fields =>
    have hfields := toList_compactFields fields
    simp [compact, spelling, flatMap_intercalate, hfields, Token.text]

theorem toList_compactItems (items : List Json) :
    (compactItems items).map String.toList = (spellItems items).map (·.flatMap Token.text) := by
  match items with
  | [] => rw [compactItems, spellItems, List.map_nil, List.map_nil]
  | item :: rest =>
    rw [compactItems, spellItems, List.map_cons, List.map_cons, toList_compact item,
      toList_compactItems rest]

theorem toList_compactFields (fields : List (String × Json)) :
    (compactFields fields).map String.toList = (spellFields fields).map (·.flatMap Token.text) := by
  match fields with
  | [] => rw [compactFields, spellFields, List.map_nil, List.map_nil]
  | (key, value) :: rest =>
    have hvalue := toList_compact value
    have hrest := toList_compactFields rest
    simp [compactFields, spellFields, hvalue, hrest, Token.text]
end

def Token.Closed : Token → Prop
  | .number _ | .string none | .fault => False
  | _ => True

theorem foldl_text {token : Token} (h : token.Closed) (found : List Token) :
    token.text.foldl Scanner.step ⟨.between, found⟩ = ⟨.between, token :: found⟩ := by
  cases token with
  | arrayStart | arrayEnd | objectStart | objectEnd | comma | colon | null => rfl
  | bool b => cases b <;> rfl
  | string value =>
    cases value with
    | none => exact h.elim
    | some s => exact foldl_stringText (stringText_quoted s)
  | number | fault => exact h.elim

theorem tokens_flatMap_text {found : List Token} (h : ∀ token ∈ found, token.Closed) :
    tokens (found.flatMap Token.text) = found := by
  have hscan : ∀ earlier, (found.flatMap Token.text).foldl Scanner.step ⟨.between, earlier⟩ =
      ⟨.between, found.reverse ++ earlier⟩ := by
    induction found with
    | nil => exact fun _ => rfl
    | cons token rest ih =>
      intro earlier
      obtain ⟨htoken, hrest⟩ := List.forall_mem_cons.1 h
      rw [List.flatMap_cons, List.foldl_append, foldl_text htoken, ih hrest]
      simp
  rw [tokens, Scanner.start, hscan, List.append_nil, Scanner.finish, List.reverse_reverse]

mutual
def NumberFree : Json → Prop
  | .number _ => False
  | .array items => AllNumberFree items
  | .object fields => FieldsNumberFree fields
  | .null | .bool _ | .string _ => True

def AllNumberFree : List Json → Prop
  | [] => True
  | item :: rest => item.NumberFree ∧ AllNumberFree rest

def FieldsNumberFree : List (String × Json) → Prop
  | [] => True
  | (_, value) :: rest => value.NumberFree ∧ FieldsNumberFree rest
end

theorem forall_mem_intercalate {α : Type} {P : α → Prop} {separator : α} {groups : List (List α)}
    (hseparator : P separator) (hgroups : ∀ group ∈ groups, ∀ a ∈ group, P a) :
    ∀ a ∈ [separator].intercalate groups, P a := by
  induction groups with
  | nil => nofun
  | cons group rest ih =>
    obtain ⟨hgroup, hrest⟩ := List.forall_mem_cons.1 hgroups
    cases rest with
    | nil => simpa using hgroup
    | cons next rest =>
      rw [List.intercalate_cons_cons, List.forall_mem_append, List.forall_mem_append,
        List.forall_mem_singleton]
      exact ⟨⟨hgroup, hseparator⟩, ih hrest⟩

mutual
theorem closed_spelling (document : Json) (h : document.NumberFree) :
    ∀ token ∈ spelling document, token.Closed := by
  match document with
  | .null | .bool _ | .string _ =>
    rw [spelling, List.forall_mem_singleton]
    trivial
  | .number n =>
    rw [NumberFree] at h
    exact h.elim
  | .array items =>
    rw [NumberFree] at h
    have hitems := closed_spellItems items h
    rw [spelling, List.forall_mem_append, List.forall_mem_cons, List.forall_mem_singleton]
    exact ⟨⟨trivial, forall_mem_intercalate trivial hitems⟩, trivial⟩
  | .object fields =>
    rw [NumberFree] at h
    have hfields := closed_spellFields fields h
    rw [spelling, List.forall_mem_append, List.forall_mem_cons, List.forall_mem_singleton]
    exact ⟨⟨trivial, forall_mem_intercalate trivial hfields⟩, trivial⟩

theorem closed_spellItems (items : List Json) (h : AllNumberFree items) :
    ∀ group ∈ spellItems items, ∀ token ∈ group, token.Closed := by
  match items with
  | [] =>
    rw [spellItems]
    nofun
  | item :: rest =>
    rw [AllNumberFree] at h
    rw [spellItems, List.forall_mem_cons]
    exact ⟨closed_spelling item h.1, closed_spellItems rest h.2⟩

theorem closed_spellFields (fields : List (String × Json)) (h : FieldsNumberFree fields) :
    ∀ group ∈ spellFields fields, ∀ token ∈ group, token.Closed := by
  match fields with
  | [] =>
    rw [spellFields]
    nofun
  | (key, value) :: rest =>
    rw [FieldsNumberFree] at h
    rw [spellFields, List.forall_mem_cons, List.forall_mem_cons, List.forall_mem_cons]
    exact ⟨⟨trivial, trivial, closed_spelling value h.1⟩, closed_spellFields rest h.2⟩
end

theorem tokens_compact {document : Json} (h : document.NumberFree) :
    tokens (compact document).toList = spelling document := by
  rw [toList_compact, tokens_flatMap_text (closed_spelling document h)]

end TemplateCode.Json
