import TemplateCode.Pattern.Reader

/-! Values of fields as a log filter writes them: a number, or a pattern. -/

namespace TemplateCode.Log

def isWord (word : String) (cs : List Char) : Bool :=
  String.ofList (cs.map Char.toLower) == word

def isInteger (cs : List Char) : Bool :=
  let digits := match cs with
    | '+' :: rest | '-' :: rest => rest
    | cs => cs
  !digits.isEmpty && digits.all Char.isDigit

def isExponent : List Char → Bool
  | [] => true
  | c :: rest => (c == 'e' || c == 'E') && isInteger rest

def isDecimal (cs : List Char) : Bool :=
  let whole := cs.takeWhile Char.isDigit
  match cs.dropWhile Char.isDigit with
  | '.' :: rest =>
    (!whole.isEmpty || !(rest.takeWhile Char.isDigit).isEmpty) &&
      isExponent (rest.dropWhile Char.isDigit)
  | rest => !whole.isEmpty && isExponent rest

def isNumber (cs : List Char) : Bool :=
  let size := match cs with
    | '+' :: rest | '-' :: rest => rest
    | cs => cs
  isDecimal size || isWord "inf" size || isWord "infinity" size || isWord "nan" size

/-- Truth values are patterns too, so they need no rule of their own. -/
def isFieldValue (cs : List Char) : Bool := isNumber cs || Pattern.isPattern cs

end TemplateCode.Log
