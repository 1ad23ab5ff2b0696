/-! What the generated script is written with: names, the two kinds of string literals, and
statements that append to the render buffer. -/

namespace TemplateCode.Script

/-! Names that may stand as a variable. Only ASCII names are admitted. -/

def reservedWords : List String :=
  ["await", "break", "case", "catch", "class", "const", "continue", "debugger", "default", "delete",
    "do", "else", "enum", "export", "extends", "false", "finally", "for", "function", "if",
    "implements", "import", "in", "instanceof", "interface", "let", "new", "null", "package",
    "private", "protected", "public", "return", "static", "super", "switch", "this", "throw",
    "true", "try", "typeof", "var", "void", "while", "with", "yield"]

def isNameStart (c : Char) : Bool := c.isAlpha || c == '_' || c == '$'

def isNamePart (c : Char) : Bool := c.isAlphanum || c == '_' || c == '$'

def isIdentifier (name : String) : Bool :=
  match name.toList with
  | [] => false
  | c :: rest => isNameStart c && rest.all isNamePart && !reservedWords.contains name

/-! Single-quoted literals: how a text is written between the quotes, and where the content of a
written literal ends. -/

namespace Literal

/-- A quote, a backslash and the four line breaks of the script's language are written as escapes.
-/
def encodeChar : Char → List Char
  | '\\' => ['\\', '\\']
  | '\'' => ['\\', '\'']
  | '\n' => ['\\', 'n']
  | '\r' => ['\\', 'r']
  | '\u2028' => ['\\', 'u', '2', '0', '2', '8']
  | '\u2029' => ['\\', 'u', '2', '0', '2', '9']
  | c => [c]

def encode (text : String) : String :=
  String.ofList (text.toList.flatMap encodeChar)

def closer : List Char := ['\'', ')', ';']

/-- Reads the content of a literal, up to its closing quote, and the text after the closer; `seen`
holds what was read so far, latest first. A backslash takes the next character with it. A bare line
break, the end of the text and a quote that no closer begins with refuse. -/
def scan (seen : List Char) : List Char → Option (List Char × List Char)
  | [] => none
  | ['\\'] => none
  | '\\' :: c :: rest => scan (c :: '\\' :: seen) rest
  | '\'' :: ')' :: ';' :: rest => some (seen.reverse, rest)
  | c :: rest => if c = '\'' ∨ c = '\n' ∨ c = '\r' then none else scan (c :: seen) rest

def split? (body : List Char) : Option (List Char × List Char) := scan [] body

theorem scan_rest_length {seen body content rest : List Char}
    (h : scan seen body = some (content, rest)) : rest.length < body.length := by
  fun_induction scan seen body with
  | case1 | case2 => simp at h
  | case3 seen c rest' ih => simpa using Nat.lt_succ_of_lt (Nat.lt_succ_of_lt (ih h))
  | case4 seen rest' =>
    simp only [Option.some.injEq, Prod.mk.injEq] at h
    simp only [← h.2, List.length_cons]
    omega
  | case5 => simp at h
  | case6 seen c rest' _ _ _ _ ih => simpa using Nat.lt_succ_of_lt (ih h)

theorem split?_rest_length {body content rest : List Char}
    (h : split? body = some (content, rest)) : rest.length < body.length :=
  scan_rest_length h

end Literal

/-! The copy of a template's own text that debug output carries inside a double-quoted literal. Line
breaks become a marker that the error reporter splits at. -/

namespace DebugCopy

def marker : List Char := ['!', 'L', 'B', '!']

def encodeChar : Char → List Char
  | '\\' => ['\\', '\\']
  | '"' => ['\\', '"']
  | '\'' => ['\\', '\'']
  | '\n' | '\r' | '\u2028' | '\u2029' => marker
  | c => [c]

/-- Encodes a text after `out`, which is kept latest first. A carriage return and the line feed
after it are one line break. -/
def encodeFrom (out : List Char) : List Char → List Char
  | [] => out.reverse
  | '\r' :: '\n' :: rest => encodeFrom (marker.reverse ++ out) rest
  | c :: rest => encodeFrom ((encodeChar c).reverse ++ out) rest

def encode (source : String) : String :=
  String.ofList (encodeFrom [] source.toList)

end DebugCopy

/-! Pushes. Each stands on lines of its own. -/

namespace Push

def opener : List Char :=
  ['_', '_', 'v', 'b', 'u', 'f', 'f', 'e', 'r', '.', 'p', 'u', 's', 'h', '(', '\'']

def literal (content : String) : String :=
  "\n__vbuffer.push('" ++ content ++ "');\n"

def expression (code : String) : String :=
  "\n__vbuffer.push(" ++ code ++ ");\n"

def text (s : String) : String := literal (Literal.encode s)

end Push

end TemplateCode.Script
