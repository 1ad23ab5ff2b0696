import Mathlib.Data.List.Nodup
import Mathlib.Data.List.ReduceOption
import TemplateCode.Proofs.FirstFailure
import TemplateCode.Proofs.LooseText

/-! The options of a run as layers: the defaults, a file that gives some of them in any order and
any spelling, and the arguments. Each option comes out of its own key and its own argument. -/

namespace TemplateCode

namespace Options

open TemplateCode.Json

section Grammar

inductive Value where
  | flag (b : Bool)
  | string (s : String)
  | absent

def value (o : Options) : Key → Value
  | .debug => .flag o.debug
  | .useWith => .flag o.useWith
  | .asHelper => .flag o.asHelper
  | .simple => .flag o.simple
  | .htmlEscape => .flag o.htmlEscape
  | .helpersName => .string o.helpersName
  | .modelName => .string o.modelName
  | .source => o.source.elim .absent .string

inductive Value.WrittenAs : Value → List Char → Prop
  | flag (b : Bool) : WrittenAs (.flag b) (boolText b)
  | string {s : String} {text : List Char} (h : StringText s text) : WrittenAs (.string s) text
  | absent : WrittenAs .absent "null".toList

/-- A member of an object of options: one of them with its value, or any scalar under a name that
no option has. -/
inductive MemberText (o : Options) : Option Key → List Char → Prop
  | known {key : Key} {name value : List Char} (hname : Padded (StringText key.name) name)
      (hvalue : Padded (o.value key).WrittenAs value) :
      MemberText o (some key) (name ++ ':' :: value)
  | unknown {word : String} {name value : List Char} (hword : ∀ key : Key, key.name ≠ word)
      (hname : Padded (StringText word) name) (hvalue : Padded ScalarText value) :
      MemberText o none (name ++ ':' :: value)

def Gives (o : Options) (keys : List Key) (text : String) : Prop :=
  ∃ marks members, ObjectText members text.toList ∧ List.Forall₂ (MemberText o) marks members ∧
    marks.reduceOption = keys

end Grammar

section Tokens

def Value.token : Value → Token
  | .flag b => .bool b
  | .string s => .string (some s)
  | .absent => .null

theorem scans_stringText {s : String} {text : List Char} (h : StringText s text) :
    Scans text [.string (some s)] :=
  scans_of_foldl fun _ => foldl_stringText h

theorem scans_boolText (b : Bool) : Scans (boolText b) [.bool b] :=
  scans_of_foldl fun _ => by cases b <;> rfl

theorem scans_null : Scans "null".toList [.null] := scans_of_foldl fun _ => rfl

theorem Value.WrittenAs.scans {value : Value} {text : List Char} (h : value.WrittenAs text) :
    Scans text [value.token] := by
  cases h with
  | flag b => exact scans_boolText b
  | string h => exact scans_stringText h
  | absent => exact scans_null

def Passed (token : Token) : Prop :=
  ∀ draft, Reader.skip (.value []) draft token = .afterField draft

theorem scans_scalarText {text : List Char} (h : ScalarText text) :
    ∃ token, Passed token ∧ Scans text [token] := by
  cases h with
  | null => exact ⟨.null, fun _ => rfl, scans_null⟩
  | bool b => exact ⟨.bool b, fun _ => rfl, scans_boolText b⟩
  | numeral h =>
    refine ⟨_, fun draft => ?_, scans_numeralText h⟩
    cases Number.ofNumeral? text <;> rfl
  | @string units pieces h =>
    refine ⟨_, fun draft => ?_, scans_of_foldl fun _ => foldl_inQuotes h⟩
    cases (decodeUnits [] units).map String.ofList <;> rfl

inductive MemberTokens (o : Options) : Option Key → List Token → Prop
  | known (key : Key) :
      MemberTokens o (some key) [.string (some key.name), .colon, (o.value key).token]
  | unknown {word : String} (hword : ∀ key : Key, key.name ≠ word) {token : Token}
      (htoken : Passed token) : MemberTokens o none [.string (some word), .colon, token]

theorem scans_memberText {o : Options} {mark : Option Key} {text : List Char}
    (h : MemberText o mark text) : ∃ found, MemberTokens o mark found ∧ Scans text found := by
  cases h with
  | @known key _ _ hname hvalue =>
    have hname := Scans.padded (hname.imp fun _ => scans_stringText)
    have hvalue := Scans.padded (hvalue.imp fun _ => Value.WrittenAs.scans)
    exact ⟨_, .known key, hname.joined (by simp) hvalue⟩
  | unknown hword hname hvalue =>
    have hname := Scans.padded (hname.imp fun _ => scans_stringText)
    obtain ⟨before, inner, after, hbefore, hinner, hafter, rfl⟩ := hvalue
    obtain ⟨token, htoken, hscans⟩ := scans_scalarText hinner
    have hvalue := Scans.padded ⟨before, inner, after, hbefore, hscans, hafter, rfl⟩
    exact ⟨_, .unknown hword htoken, hname.joined (by simp) hvalue⟩

theorem scans_memberTexts {o : Options} {marks : List (Option Key)} {members : List (List Char)}
    (h : List.Forall₂ (MemberText o) marks members) :
    ∃ groups, List.Forall₂ (MemberTokens o) marks groups ∧ List.Forall₂ Scans members groups := by
  induction h with
  | nil => exact ⟨[], .nil, .nil⟩
  | cons hfirst _ ih =>
    obtain ⟨found, hfound, hscans⟩ := scans_memberText hfirst
    obtain ⟨groups, hgroups, hrest⟩ := ih
    exact ⟨found :: groups, .cons hfound hgroups, .cons hscans hrest⟩

end Tokens

section Reading

def overlay (o : Options) (keys : List Key) : Options where
  debug := if .debug ∈ keys then o.debug else default.debug
  useWith := if .useWith ∈ keys then o.useWith else default.useWith
  asHelper := if .asHelper ∈ keys then o.asHelper else default.asHelper
  simple := if .simple ∈ keys then o.simple else default.simple
  htmlEscape := if .htmlEscape ∈ keys then o.htmlEscape else default.htmlEscape
  helpersName := if .helpersName ∈ keys then o.helpersName else default.helpersName
  modelName := if .modelName ∈ keys then o.modelName else default.modelName
  source := if .source ∈ keys then o.source else default.source

theorem assign_overlay (o : Options) (keys : List Key) (key : Key) :
    (o.overlay keys).assign (o.value key).token key = .ok (o.overlay (key :: keys)) := by
  cases key with
  | source =>
    cases h : o.source <;>
      simp [assign, value, h, Value.token, readSource, readString, overlay, Functor.map, Except.map]
  | debug | useWith | asHelper | simple | htmlEscape | helpersName | modelName =>
    simp [assign, value, Value.token, readFlag, readString, overlay, Functor.map, Except.map]

theorem ofName?_name (key : Key) : Key.ofName? key.name = some key := by cases key <;> rfl

theorem ofName?_eq_none {word : String} (h : ∀ key : Key, key.name ≠ word) :
    Key.ofName? word = none :=
  List.find?_eq_none.2 fun key _ => by simpa using h key

def draftOf (o : Options) (keys : List Key) : Draft := ⟨o.overlay keys, keys⟩

theorem foldl_memberTokens {o : Options} {mark : Option Key} {found : List Token} {keys : List Key}
    (h : MemberTokens o mark found) (hnew : ∀ key ∈ mark, key ∉ keys) :
    found.foldl Reader.step (.nextKey (o.draftOf keys)) =
      .afterField (o.draftOf (mark.toList ++ keys)) := by
  cases h with
  | known key =>
    have hkey : key ∉ keys := hnew key rfl
    simp [Reader.step, Reader.readKey, ofName?_name, draftOf, hkey, assign_overlay]
  | unknown hword htoken =>
    simp [Reader.step, Reader.readKey, ofName?_eq_none hword, htoken (o.draftOf keys)]

theorem nodup_of_cons {mark : Option Key} {marks : List (Option Key)} {keys : List Key}
    (h : ((mark :: marks).reduceOption ++ keys).Nodup) :
    (∀ key ∈ mark, key ∉ keys) ∧ (marks.reduceOption ++ (mark.toList ++ keys)).Nodup := by
  cases mark with
  | none => exact ⟨nofun, h⟩
  | some key =>
    rw [List.reduceOption_cons_of_some, List.cons_append] at h
    refine ⟨fun _ hkey => ?_, List.nodup_middle.2 h⟩
    obtain rfl := Option.some.inj hkey
    exact fun hmem => (List.nodup_cons.1 h).1 (List.mem_append_right _ hmem)

theorem reverse_reduceOption_cons (mark : Option Key) (marks : List (Option Key))
    (keys : List Key) :
    (mark :: marks).reduceOption.reverse ++ keys =
      marks.reduceOption.reverse ++ (mark.toList ++ keys) := by
  cases mark <;> simp

theorem foldl_members {o : Options} {marks : List (Option Key)} {groups : List (List Token)}
    (h : List.Forall₂ (MemberTokens o) marks groups) (hne : groups ≠ []) {keys : List Key}
    (hnodup : (marks.reduceOption ++ keys).Nodup) :
    ([Token.comma].intercalate groups ++ [Token.objectEnd]).foldl Reader.step
        (.nextKey (o.draftOf keys)) =
      .done (o.overlay (marks.reduceOption.reverse ++ keys)) := by
  -- The keys that have come grow with every member, and those to come must not be among them.
  induction h generalizing keys with
  | nil => exact absurd rfl hne
  | @cons mark found marks groups hfirst hrest ih =>
    obtain ⟨hnew, hnodup⟩ := nodup_of_cons hnodup
    have hfound := foldl_memberTokens hfirst hnew
    rw [reverse_reduceOption_cons]
    cases hrest with
    | nil =>
      rw [List.intercalate_singleton, List.foldl_append, hfound]
      rfl
    | @cons _ next _ groups =>
      rw [List.intercalate_cons_cons, List.append_assoc, List.append_assoc, List.foldl_append,
        hfound]
      exact ih (List.cons_ne_nil next groups) hnodup

theorem overlay_nil (o : Options) : o.overlay [] = default := by simp [overlay, default]

theorem overlay_reverse (o : Options) (keys : List Key) :
    o.overlay keys.reverse = o.overlay keys := by
  simp [overlay]

theorem MemberTokens.exists_cons {o : Options} {mark : Option Key} {found : List Token}
    (h : MemberTokens o mark found) : ∃ word rest, found = .string (some word) :: rest := by
  cases h with
  | known key => exact ⟨_, _, rfl⟩
  | unknown => exact ⟨_, _, rfl⟩

theorem foldl_firstKey {o : Options} {mark : Option Key} {found : List Token}
    (h : MemberTokens o mark found) (rest : List Token) :
    (found ++ rest).foldl Reader.step .firstKey =
      (found ++ rest).foldl Reader.step (.nextKey (o.draftOf [])) := by
  obtain ⟨word, more, rfl⟩ := h.exists_cons
  simp [Reader.step, draftOf, overlay_nil]

theorem ofText_of_gives {o : Options} {keys : List Key} {text : String} (h : o.Gives keys text)
    (hkeys : keys.Nodup) : ofText text = .ok (o.overlay keys) := by
  obtain ⟨marks, members, hobject, hmembers, rfl⟩ := h
  obtain ⟨groups, hgroups, hscans⟩ := scans_memberTexts hmembers
  rw [ofText, tokens_objectText hobject hscans, List.foldl_cons]
  cases hgroups with
  | nil => exact congrArg Except.ok o.overlay_nil.symm
  | @cons mark found marks groups hfirst hrest =>
    have hread := foldl_members (.cons hfirst hrest) (List.cons_ne_nil found groups)
      (by rwa [List.append_nil])
    obtain ⟨rest, hfound⟩ :
        ∃ rest, [Token.comma].intercalate (found :: groups) = found ++ rest := by
      cases groups with
      | nil => exact ⟨[], by simp⟩
      | cons next groups =>
        exact ⟨_, List.intercalate_cons_cons.trans (List.append_assoc ..)⟩
    rw [hfound, List.append_assoc, ← foldl_firstKey hfirst, List.append_nil, overlay_reverse,
      ← List.append_assoc, ← hfound] at hread
    exact congrArg Reader.finish hread

end Reading

end Options

namespace Command

open TemplateCode.Json TemplateCode.Options

/-- Every option is settled by its own key of the options file and its own argument. The template
is the text of the file that is named for it, or else what the options file gives. -/
theorem resolveOptions_layers (s : Sources) (a : Arguments) (o : Options) (template : Option String)
    {keys : List Key} (hkeys : keys.Nodup) {path : Files.Path} {text : String}
    (htext : o.Gives keys text) (hconfig : a.config = some path) (hfile : s.file [] path = .ok text)
    (hsource : a.source.map (s.file [path]) = template.map .ok) :
    resolveOptions s a = .ok
      { debug := (if .debug ∈ keys then o.debug else false) || a.debug
        useWith := (if .useWith ∈ keys then o.useWith else false) || a.useWith
        asHelper := (if .asHelper ∈ keys then o.asHelper else false) || a.asHelper
        simple := (if .simple ∈ keys then o.simple else false) || a.simple
        htmlEscape := (if .htmlEscape ∈ keys then o.htmlEscape else true) && !a.noHtmlEscape
        helpersName := a.helpersName.getD (if .helpersName ∈ keys then o.helpersName else "html")
        modelName := a.modelName.getD (if .modelName ∈ keys then o.modelName else "model")
        source := template.or (if .source ∈ keys then o.source else none) } := by
  have hoptions : configStep s a = .ok (o.overlay keys) := by
    rw [configStep, hconfig]
    exact bind_eq_ok_iff.2 ⟨text, attempt_eq_ok_iff.2 hfile,
      attempt_eq_ok_iff.2 (ofText_of_gives htext hkeys)⟩
  have htemplate : sourceStep s a = .ok template := by
    rw [sourceStep, hconfig]
    cases hpath : a.source with
    | none =>
      obtain rfl : template = none := by simpa [hpath] using hsource.symm
      rfl
    | some file =>
      obtain ⟨source, rfl, hread⟩ : ∃ t, template = some t ∧ .ok t = s.file [path] file :=
        Option.map_eq_some_iff.1 (by simpa [hpath] using hsource.symm)
      exact map_eq_ok_iff.2 ⟨source, attempt_eq_ok_iff.2 hread.symm, rfl⟩
  rw [resolveOptions_eq, hoptions, htemplate]
  rfl

/-- Options in a text with odd escapes and blanks, beside a number that is too large and a string
that stands for no text. -/
def layeredText : String :=
  r"{" ++ " \"modelName\"\t: \"\\ud83D\\ude00\",\n\"\\u0064ebug\":true ,\"vendor\":-0.5E+999," ++
    "\"note\":\"\\udead\"" ++ r"} "

def layeredOptions : Options :=
  { Options.default with debug := true, modelName := "😀", helpersName := "left out" }

def layeredMembers : List (List Char) :=
  [" \"modelName\"\t".toList ++ ':' :: " \"\\ud83D\\ude00\"".toList,
    "\n\"\\u0064ebug\"".toList ++ ':' :: "true ".toList,
    "\"vendor\"".toList ++ ':' :: "-0.5E+999".toList,
    "\"note\"".toList ++ ':' :: "\"\\udead\"".toList]

theorem objectText_layered : ObjectText layeredMembers layeredText.toList := by
  have htext : layeredText.toList =
      [] ++ '{' :: ([','].intercalate layeredMembers ++ '}' :: [' ']) := by
    decide
  rw [htext]
  exact .members (by simp [Blank]) (by simp [layeredMembers]) (by simp [Blank])

theorem stringText_surrogates : StringText "😀" "\"\\ud83D\\ude00\"".toList := by
  have hhigh : HexText (0xD800 + 0x3D) ['d', '8', '3', 'D'] :=
    .mk (hexDigit_self 13 (by decide)) (hexDigit_self 8 (by decide)) (hexDigit_self 3 (by decide))
      (hexDigit_upper 13 (by decide))
  have hlow : HexText (0xDC00 + 0x200) ['d', 'e', '0', '0'] :=
    .mk (hexDigit_self 13 (by decide)) (hexDigit_self 14 (by decide)) (hexDigit_self 0 (by decide))
      (hexDigit_self 0 (by decide))
  exact ⟨_, .cons (.pair hhigh hlow (by decide) (by decide) (by decide)) .nil, by decide⟩

theorem stringText_escapedLetter : StringText "debug" "\"\\u0064ebug\"".toList := by
  have hhex : HexText 'd'.toNat ['0', '0', '6', '4'] :=
    .mk (hexDigit_self 0 (by decide)) (hexDigit_self 0 (by decide)) (hexDigit_self 6 (by decide))
      (hexDigit_self 4 (by decide))
  have hchars : "debug".toList = 'd' :: ['e', 'b', 'u', 'g'] := by decide
  refine ⟨"\\u0064".toList :: ['e', 'b', 'u', 'g'].map encodeChar, ?_, by decide⟩
  rw [hchars]
  exact .cons (.single (.hex hhex)) (charTexts_encodeChar _)

theorem numeralText_large : NumeralText "-0.5E+999".toList := by
  have htext : "-0.5E+999".toList =
      ['-'] ++ (['0'] ++ ('.' :: ['5'] ++ 'E' :: (['+'] ++ ['9', '9', '9']))) := by
    decide
  rw [htext]
  exact .mk (by simp) .zero (.digits ⟨by simp, by simp⟩)
    (.digits (by simp) (by simp) ⟨by simp, by simp⟩)

theorem memberText_layered :
    List.Forall₂ (MemberText layeredOptions) [some .modelName, some .debug, none, none]
      layeredMembers := by
  have hpad {Inner : List Char → Prop} {inner : List Char} (h : Inner inner) : Padded Inner inner :=
    ⟨[], inner, [], by simp [Blank], h, by simp [Blank], by simp⟩
  have hunpaired : HexText 0xDEAD ['d', 'e', 'a', 'd'] :=
    .mk (hexDigit_self 13 (by decide)) (hexDigit_self 14 (by decide)) (hexDigit_self 10 (by decide))
      (hexDigit_self 13 (by decide))
  have hvendor : ∀ key : Key, key.name ≠ "vendor" := by
    intro key
    cases key <;> decide
  have hnote : ∀ key : Key, key.name ≠ "note" := by
    intro key
    cases key <;> decide
  refine .cons (.known ?_ ?_) (.cons (.known ?_ ?_)
    (.cons (.unknown hvendor ?_ ?_) (.cons (.unknown hnote ?_ ?_) .nil)))
  · exact ⟨[' '], _, ['\t'], by simp [Blank], stringText_quoted _, by simp [Blank], by decide⟩
  · exact ⟨[' '], _, [], by simp [Blank], .string stringText_surrogates, by simp [Blank], by decide⟩
  · exact ⟨['\n'], _, [], by simp [Blank], stringText_escapedLetter, by simp [Blank], by decide⟩
  · exact ⟨[], _, [' '], by simp [Blank], .flag true, by simp [Blank], by decide⟩
  · exact hpad (stringText_quoted "vendor")
  · exact hpad (.numeral numeralText_large)
  · exact hpad (stringText_quoted "note")
  · exact hpad (.string (.cons (.hex hunpaired) .nil))

def layeredSources : Sources where
  file _ path := .ok (if path.text = "options.json" then layeredText else "<b>")
  stdin _ := .ok ""

def layeredArguments : Arguments :=
  { Arguments.empty with
    config := some ⟨"options.json"⟩, source := some ⟨"page.vash"⟩, helpersName := some "h",
    useWith := true, noHtmlEscape := true }

theorem resolveOptions_layered :
    layeredOptions.Gives [.modelName, .debug] layeredText ∧
      resolveOptions layeredSources layeredArguments = .ok
        { debug := true, useWith := true, asHelper := false, simple := false, htmlEscape := false,
          helpersName := "h", modelName := "😀", source := some "<b>" } := by
  have hgives : layeredOptions.Gives [.modelName, .debug] layeredText :=
    ⟨_, _, objectText_layered, memberText_layered, rfl⟩
  exact ⟨hgives, resolveOptions_layers layeredSources layeredArguments layeredOptions (some "<b>")
    (by decide) hgives rfl rfl rfl⟩

end Command

end TemplateCode
