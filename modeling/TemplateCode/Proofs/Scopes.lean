import Mathlib.Data.List.Nodup
import TemplateCode.Proofs.Skeleton
import TemplateCode.Proofs.Spelling

/-! What names stand for in a generated script. The text around a body is read word by word: a `var`
binds a name to what its value stands for, and a `catch` binds a name to the error. All names stand
for what they are meant to exactly if no two of them are the same, and that the options are valid
does not see to it. -/

namespace TemplateCode.Render

open TemplateCode.Script

inductive Thing where
  | buffer
  | model
  | helpers
  | options
  | error
  | other
  deriving DecidableEq, Repr

abbrev Scope := List (String × Thing)

def Thing.property : Thing → String → Thing
  | .helpers, "buffer" => .buffer
  | .helpers, "model" => .model
  | _, _ => .other

namespace Scope

def denotes (scope : Scope) (name : String) : Thing := (scope.lookup name).getD .other

/-- What a name followed by properties stands for. A helper runs as a method of the helpers. -/
def evaluate (scope : Scope) : List String → Thing
  | [] => .other
  | "this" :: properties => properties.foldl Thing.property .helpers
  | name :: properties => properties.foldl Thing.property (scope.denotes name)

end Scope

/-- The names in a word, which points separate; a semicolon may end it. -/
def pathOf (word : String) : List String :=
  ((word.toList.filter (· != ';')).splitOn '.').map String.ofList

def wordsOf (line : List Char) : List String := (line.splitOn ' ').map String.ofList

def linesOf (text : String) : List (List String) := (text.toList.splitOn '\n').map wordsOf

namespace Scope

def read (scope : Scope) : List String → Scope
  | ["var", name, "=", value, ""] => (name, scope.evaluate (pathOf value)) :: scope
  | [r"}", "catch(", name, r"){", ""] => (name, .error) :: scope
  -- What a `with` brings into scope is up to the model at hand, so it binds nothing here.
  | _ => scope

def after (scope : Scope) (text : String) : Scope := (linesOf text).foldl read scope

def reporter? (scope : Scope) : List String → Option Thing
  | "" :: "" :: call :: _ =>
    match pathOf call with
    | [name, "reportError("] => some (scope.denotes name)
    | _ => none
  | _ => none

def reporters (scope : Scope) (text : String) : List Thing :=
  (linesOf text).filterMap scope.reporter?

def Serves (scope roles : Scope) : Prop := ∀ role ∈ roles, scope.denotes role.1 = role.2

end Scope

/-- What a caller gives names to, the last parameter first: of two with one name it is the last
that counts. A helper is given nothing but the helpers it is a method of. -/
def entryScope (o : Options) : Scope :=
  if o.asHelper then []
  else [("__vopts", .options), (o.helpersName, .helpers), (o.modelName, .model)]

def bodyScope (o : Options) : Scope := (entryScope o).after (front o)

def debugCatch (o : Options) : String := writeLines o catchLines

def handlerScope (o : Options) : Scope := (bodyScope o).after (debugCatch o)

/-- The names that a script uses, with what each is meant to stand for. -/
def roles (o : Options) : Scope :=
  [("__vbuffer", .buffer), (o.modelName, .model), (o.helpersName, .helpers)] ++
    if o.asHelper then [] else [("__vopts", .options)]

def handlerRoles (o : Options) : Scope := ("e", .error) :: roles o

section Reading

theorem wordsOf_cons {word : String} (hword : ' ' ∉ word.toList) (line : List Char) :
    wordsOf (word.toList ++ ' ' :: line) = word :: wordsOf line := by
  rw [wordsOf, List.splitOn_append_cons_self, List.splitOn_eq_singleton hword]
  simp [wordsOf]

def Word.text (o : Options) (word : Word) : String := String.join (word.map (Fragment.text o))

def Line.chars (o : Options) (line : Line) : List Char :=
  [' '].intercalate (line.map fun word => (Word.text o word).toList)

theorem toList_writeLines (o : Options) (lines : List Line) :
    (writeLines o lines).toList = lines.flatMap fun line => Line.chars o line ++ [' ', '\n'] := by
  rw [writeLines, String.toList_join, List.flatMap_map, List.flatMap_assoc]
  refine congrArg (lines.flatMap ·) (funext fun line => ?_)
  rw [Line.fragments, List.flatMap_append, Json.flatMap_intercalate]
  simp [Line.chars, Word.text, Fragment.text, List.flatMap_map]

theorem linesOf_writeLines {o : Options} {lines : List Line}
    (h : ∀ line ∈ lines, ∀ word ∈ line, '\n' ∉ (Word.text o word).toList) :
    linesOf (writeLines o lines) =
      (lines.map fun line => wordsOf (Line.chars o line ++ [' '])) ++ [[""]] := by
  rw [linesOf, toList_writeLines]
  induction lines with
  | nil => rfl
  | cons line lines ih =>
    rw [List.forall_mem_cons] at h
    have hchars : ∀ c ∈ Line.chars o line, c ≠ '\n' := by
      refine Json.forall_mem_intercalate (by decide) ?_
      rw [List.forall_mem_map]
      rintro word hword c hc rfl
      exact h.1 word hword hc
    have hline : '\n' ∉ Line.chars o line ++ [' '] := by
      simpa using fun hnewline => hchars '\n' hnewline rfl
    have hsplit : (line :: lines).flatMap (fun line => Line.chars o line ++ [' ', '\n']) =
        (Line.chars o line ++ [' ']) ++ '\n' ::
          lines.flatMap (fun line => Line.chars o line ++ [' ', '\n']) := by simp
    rw [hsplit, List.splitOn_append_cons_self, List.splitOn_eq_singleton hline, List.map_append,
      ih h.2]
    rfl

theorem wordsOf_chars_cons {o : Options} {word next : Word} {line : Line}
    (hword : ' ' ∉ (Word.text o word).toList) :
    wordsOf (Line.chars o (word :: next :: line) ++ [' ']) =
      Word.text o word :: wordsOf (Line.chars o (next :: line) ++ [' ']) := by
  rw [← wordsOf_cons hword]
  simp [Line.chars, List.intercalate_cons_cons]

theorem wordsOf_chars {o : Options} {line : Line} (hne : line ≠ [])
    (h : ∀ word ∈ line, ' ' ∉ (Word.text o word).toList) :
    wordsOf (Line.chars o line ++ [' ']) = line.map (Word.text o) ++ [""] := by
  induction line with
  | nil => exact absurd rfl hne
  | cons word line ih =>
    rw [List.forall_mem_cons] at h
    cases line with
    | nil =>
      have hone : Line.chars o [word] ++ [' '] = (Word.text o word).toList ++ ' ' :: [] := by
        simp [Line.chars]
      rw [hone, wordsOf_cons h.1]
      rfl
    | cons next line =>
      rw [wordsOf_chars_cons h.1, ih (List.cons_ne_nil next line) h.2]
      rfl

theorem pathOf_member {name : String} (h : isIdentifier name = true) {member : List Char}
    (hmember : '.' ∉ member.filter (· != ';')) :
    pathOf (name ++ String.ofList ('.' :: member)) =
      [name, String.ofList (member.filter (· != ';'))] := by
  have hname : name.toList.filter (· != ';') = name.toList :=
    List.filter_eq_self.2 fun c hc => bne_iff_ne.2 fun hsemicolon =>
      notMem_of_isIdentifier h (by decide) (hsemicolon ▸ hc)
  have hpoint : '.' ∉ name.toList := notMem_of_isIdentifier h (by decide)
  have hword : (name ++ String.ofList ('.' :: member)).toList.filter (· != ';') =
      name.toList ++ '.' :: member.filter (· != ';') := by
    simp [hname]
  rw [pathOf, hword, List.splitOn_append_cons_self, List.splitOn_eq_singleton hpoint,
    List.splitOn_eq_singleton hmember]
  simp

variable {o : Options} (hv : o.validate = .ok ())

include hv

theorem notMem_word {c : Char} {word : Word} (hname : isNamePart c = false)
    (hfixed : ∀ fragment ∈ word, ∀ text ∈ fragment.fixed?, c ∉ text.toList)
    (hcopy : .template ∈ word → c ∉ (DebugCopy.encode (o.source.getD "")).toList) :
    c ∉ (Word.text o word).toList := by
  obtain ⟨hhelpers, hmodel⟩ := isIdentifier_of_validate hv
  rw [Word.text, String.toList_join, List.flatMap_map, List.mem_flatMap]
  rintro ⟨fragment, hfragment, hc⟩
  cases fragment with
  | fixed text => exact hfixed _ hfragment text rfl hc
  | helpersName => exact notMem_of_isIdentifier hhelpers hname hc
  | modelName => exact notMem_of_isIdentifier hmodel hname hc
  | template => exact hcopy hfragment hc

theorem newline_notMem_words {line : Line} (hline : line ∈ openingLines ++ closingLines) :
    ∀ word ∈ line, '\n' ∉ (Word.text o word).toList := by
  have hfixed : ∀ line ∈ openingLines ++ closingLines, ∀ word ∈ line, ∀ fragment ∈ word,
      ∀ text ∈ fragment.fixed?, '\n' ∉ text.toList := by decide +kernel
  intro word hword
  exact notMem_word hv (by decide) (hfixed line hline word hword) fun _ =>
    DebugCopy.lineBreak_notMem_encode _ '\n' (by decide)

def Line.Plain (line : Line) : Prop :=
  line ≠ [] ∧ ∀ word ∈ line, .template ∉ word ∧
    ∀ fragment ∈ word, ∀ text ∈ fragment.fixed?, ' ' ∉ text.toList

theorem wordsOf_plain {line : Line} (h : line.Plain) :
    wordsOf (Line.chars o line ++ [' ']) = line.map (Word.text o) ++ [""] :=
  wordsOf_chars h.1 fun word hword =>
    notMem_word hv (by decide) (h.2 word hword).2 fun hcopy => absurd hcopy (h.2 word hword).1

theorem linesOf_front :
    linesOf (front o) =
      ((frontLines o).map fun line => line.map (Word.text o) ++ [""]) ++ [[""]] := by
  have hplain : ∀ line ∈ openingLines, line.Plain := by
    unfold Line.Plain
    decide +kernel
  rw [front, linesOf_writeLines fun line hline =>
    newline_notMem_words hv (List.mem_append_left _ (mem_openingLines hline))]
  refine congrArg (· ++ [[""]]) (List.map_congr_left fun line hline => ?_)
  exact wordsOf_plain hv (hplain line (mem_openingLines hline))

theorem linesOf_debugCatch : ∃ words,
    linesOf (debugCatch o) =
      [[r"}", "catch(", "e", r"){", ""],
        "" :: "" :: (o.helpersName ++ ".reportError(") :: words, [r"}", ""], [""]] := by
  have hcatch : catchLine.Plain ∧ endLine.Plain := by
    unfold Line.Plain
    decide +kernel
  have hempty : ' ' ∉ (Word.text o [.fixed ""]).toList := List.not_mem_nil
  have hcall : ' ' ∉ (Word.text o [.helpersName, .fixed ".reportError("]).toList :=
    notMem_word hv (by decide) (by decide) fun hcopy => absurd hcopy (by decide)
  obtain ⟨next, rest, hline⟩ : ∃ (next : Word) (rest : Line), reportLine =
      [.fixed ""] :: [.fixed ""] :: [.helpersName, .fixed ".reportError("] :: next :: rest :=
    ⟨_, _, rfl⟩
  have hreport : wordsOf (Line.chars o reportLine ++ [' ']) =
      "" :: "" :: (o.helpersName ++ ".reportError(") ::
        wordsOf (Line.chars o (next :: rest) ++ [' ']) := by
    rw [hline, wordsOf_chars_cons hempty, wordsOf_chars_cons hempty, wordsOf_chars_cons hcall]
    simp [Word.text, Fragment.text]
  refine ⟨wordsOf (Line.chars o (next :: rest) ++ [' ']), ?_⟩
  have hlines : ∀ line ∈ catchLines, line ∈ openingLines ++ closingLines := by decide
  rw [debugCatch, linesOf_writeLines fun line hline => newline_notMem_words hv (hlines line hline)]
  simp only [catchLines, List.map_cons, List.map_nil, hreport, wordsOf_plain hv hcatch.1,
    wordsOf_plain hv hcatch.2]
  simp [catchLine, endLine, Word.text, Fragment.text]

theorem bodyScope_helper (hhelper : o.asHelper = true) :
    bodyScope o = [(o.helpersName, .helpers), (o.modelName, .model), ("__vbuffer", .buffer)] := by
  rw [bodyScope, Scope.after, linesOf_front hv, entryScope, if_pos hhelper, frontLines,
    if_pos hhelper, helperHeadLines]
  cases o.debug <;> simp [including, helperLines, tryLine, Word.text, Fragment.text, Scope.read]
  all_goals exact ⟨rfl, rfl, rfl⟩

theorem evaluate_buffer (scope : Scope) :
    scope.evaluate (pathOf (o.helpersName ++ ".buffer;")) =
      (scope.denotes o.helpersName).property "buffer" := by
  have hname := (isIdentifier_of_validate hv).1
  have hpath : pathOf (o.helpersName ++ ".buffer;") = [o.helpersName, "buffer"] :=
    pathOf_member hname (by decide)
  have hthis : o.helpersName ≠ "this" := by
    intro h
    rw [h] at hname
    exact absurd hname (by decide)
  rw [hpath, Scope.evaluate]
  · rfl
  · exact hthis

theorem bodyScope_head (hhelper : o.asHelper = false) :
    bodyScope o =
      ("__vbuffer", ((entryScope o).denotes o.helpersName).property "buffer") :: entryScope o := by
  rw [bodyScope, Scope.after, linesOf_front hv, frontLines, hhelper, headLines]
  cases o.debug <;> cases o.useWith <;>
    simp [including, startLines, tryLine, withLine, Word.text, Fragment.text, Scope.read,
      evaluate_buffer hv]

theorem handlerScope_eq : handlerScope o = ("e", .error) :: bodyScope o := by
  obtain ⟨words, hwords⟩ := linesOf_debugCatch hv
  rw [handlerScope, Scope.after, hwords]
  rfl

theorem reporters_debugCatch (scope : Scope) :
    scope.reporters (debugCatch o) = [scope.denotes o.helpersName] := by
  obtain ⟨words, hwords⟩ := linesOf_debugCatch hv
  have hpath : pathOf (o.helpersName ++ ".reportError(") = [o.helpersName, "reportError("] :=
    pathOf_member (isIdentifier_of_validate hv).1 (by decide)
  rw [Scope.reporters, hwords]
  simp [Scope.reporter?, hpath]

end Reading

section Distinct

theorem serves_of_nodup {scope : Scope} (h : (scope.map Prod.fst).Nodup) :
    scope.Serves scope := by
  induction scope with
  | nil => exact fun role hmem => absurd hmem List.not_mem_nil
  | cons latest scope ih =>
    obtain ⟨name, thing⟩ := latest
    obtain ⟨hname, hscope⟩ := List.nodup_cons.1 h
    intro role hmem
    obtain rfl | hmem := List.mem_cons.1 hmem
    · simp [Scope.denotes]
    · have hne : role.1 ≠ name := fun heq => hname (List.mem_map.2 ⟨role, hmem, heq⟩)
      rw [← ih hscope role hmem, Scope.denotes, List.lookup_cons, beq_false_of_ne hne]
      rfl

theorem serves_of_perm {scope roles : Scope} (hperm : scope.Perm roles)
    (hnodup : (roles.map Prod.fst).Nodup) : scope.Serves roles := fun role hrole =>
  serves_of_nodup ((hperm.map Prod.fst).nodup_iff.2 hnodup) role (hperm.mem_iff.2 hrole)

theorem nodup_of_serves {scope roles : Scope} (hthings : (roles.map Prod.snd).Nodup)
    (hserves : scope.Serves roles) : (roles.map Prod.fst).Nodup := by
  have hmap : (roles.map Prod.fst).map scope.denotes = roles.map Prod.snd := by
    rw [List.map_map]
    exact List.map_congr_left hserves
  exact List.Nodup.of_map scope.denotes (hmap ▸ hthings)

theorem nodup_things (o : Options) : ((handlerRoles o).map Prod.snd).Nodup := by
  rw [handlerRoles, roles]
  cases o.asHelper <;> simp

theorem bodyScope_perm {o : Options} (hv : o.validate = .ok ())
    (hnodup : ((roles o).map Prod.fst).Nodup) : (bodyScope o).Perm (roles o) := by
  cases hhelper : o.asHelper with
  | true =>
    rw [bodyScope_helper hv hhelper, roles, if_pos hhelper]
    exact List.reverse_perm
      [("__vbuffer", Thing.buffer), (o.modelName, .model), (o.helpersName, .helpers)]
  | false =>
    have hroles : roles o = ("__vbuffer", .buffer) :: (entryScope o).reverse := by
      simp [roles, entryScope, hhelper]
    have hentry : (entryScope o).Serves (entryScope o).reverse := by
      rw [hroles] at hnodup
      exact serves_of_perm (List.reverse_perm _).symm (List.nodup_cons.1 hnodup).2
    have hhelpers : (entryScope o).denotes o.helpersName = .helpers :=
      hentry (o.helpersName, .helpers) (by simp [entryScope, hhelper])
    rw [bodyScope_head hv hhelper, hroles, hhelpers]
    exact (List.reverse_perm _).symm.cons _

/-- The names of a script stand for what they are meant to, and an error is reported to the helpers,
exactly if no two of the names are the same. -/
theorem names_serve_iff_distinct {o : Options} (hv : o.validate = .ok ()) :
    ((bodyScope o).Serves (roles o) ∧
      (o.debug = true → (handlerScope o).Serves (handlerRoles o) ∧
        (handlerScope o).reporters (debugCatch o) = [.helpers])) ↔
      ((if o.debug then handlerRoles o else roles o).map Prod.fst).Nodup := by
  constructor
  · rintro ⟨hbody, hhandler⟩
    split
    case isTrue hdebug => exact nodup_of_serves (nodup_things o) (hhandler hdebug).1
    case isFalse => exact nodup_of_serves (List.nodup_cons.1 (nodup_things o)).2 hbody
  · intro hnodup
    have hroles : ((roles o).map Prod.fst).Nodup := by
      split at hnodup
      · exact (List.nodup_cons.1 hnodup).2
      · exact hnodup
    have hperm := bodyScope_perm hv hroles
    refine ⟨serves_of_perm hperm hroles, fun hdebug => ?_⟩
    rw [if_pos hdebug] at hnodup
    have hhandler : (handlerScope o).Serves (handlerRoles o) := by
      rw [handlerScope_eq hv]
      exact serves_of_perm (hperm.cons _) hnodup
    refine ⟨hhandler, ?_⟩
    rw [reporters_debugCatch hv,
      hhandler (o.helpersName, .helpers) (by simp [handlerRoles, roles])]

def distinctNames : Options :=
  { Options.default with
    debug := true, asHelper := true, modelName := "__vopts",
    source := some (r"} catch( html ){ " ++ "\n") }

theorem names_serve_distinctNames :
    distinctNames.validate = .ok () ∧
      (bodyScope distinctNames).Serves (roles distinctNames) ∧
      (handlerScope distinctNames).Serves (handlerRoles distinctNames) ∧
      (handlerScope distinctNames).reporters (debugCatch distinctNames) = [.helpers] := by
  have hvalid : distinctNames.validate = .ok () := by decide
  obtain ⟨hbody, hhandler⟩ := (names_serve_iff_distinct hvalid).2 (by decide)
  exact ⟨hvalid, hbody, hhandler rfl⟩

def errorNamesake : Options :=
  { Options.default with debug := true, asHelper := true, helpersName := "e", source := some "" }

def modelNamesake : Options :=
  { Options.default with asHelper := true, helpersName := "x", modelName := "x" }

def bufferNamesake : Options := { Options.default with asHelper := true, modelName := "__vbuffer" }

def optionsNamesake : Options := { Options.default with helpersName := "__vopts" }

/-- All of them are valid. An error is reported to itself, the model is lost behind the helpers and
the buffer behind the model, and the buffer is taken from the options. -/
theorem validate_admits_namesakes :
    (∀ o ∈ [errorNamesake, modelNamesake, bufferNamesake, optionsNamesake],
        o.validate = .ok ()) ∧
      (handlerScope errorNamesake).reporters (debugCatch errorNamesake) = [.error] ∧
      (bodyScope modelNamesake).denotes modelNamesake.modelName = .helpers ∧
      (bodyScope bufferNamesake).denotes "__vbuffer" = .model ∧
      (bodyScope optionsNamesake).denotes optionsNamesake.helpersName = .options ∧
      (bodyScope optionsNamesake).denotes "__vbuffer" = .other := by
  decide +kernel

end Distinct

end TemplateCode.Render
