import TemplateCode.Options.Basic

/-! The text before and after the body of a render function, or of a helper. It is kept as lines of
words, so that what holds of all its texts can be read off one table. -/

namespace TemplateCode.Render

inductive Fragment where
  | fixed (text : String)
  | helpersName
  | modelName
  | template
  deriving DecidableEq, Repr

abbrev Word := List Fragment

abbrev Line := List Word

instance : Coe String Fragment := ⟨.fixed⟩

instance : Coe String Word := ⟨fun text => [.fixed text]⟩

def Fragment.text (o : Options) : Fragment → String
  | .fixed text => text
  | .helpersName => o.helpersName
  | .modelName => o.modelName
  | .template => Script.DebugCopy.encode (o.source.getD "")

/-- There is a blank behind every word, also behind the last one. -/
def Line.fragments (line : Line) : List Fragment :=
  [.fixed " "].intercalate line ++ [.fixed " \n"]

def writeLines (o : Options) (lines : List Line) : String :=
  String.join ((lines.flatMap Line.fragments).map (Fragment.text o))

def tryLine : Line := ["try", r"{"]

def withLine : Line := ["with(", [.modelName], r"){"]

def endLine : Line := [r"}"]

def catchLine : Line := [r"}", "catch(", "e", r"){"]

/-- Reports an error with the position that the helpers object has recorded, and the template. -/
def reportLine : Line :=
  ["", "", [.helpersName, ".reportError("], "e,", [.helpersName, ".vl,"], [.helpersName, ".vc,"],
    ["\"", .template, "\""], ");"]

def catchLines : List Line := [catchLine, reportLine, endLine]

def startLines : List Line :=
  [["var", "__vbuffer", "=", [.helpersName, ".buffer;"]],
    [[.helpersName, ".options"], "=", "__vopts;"],
    [[.modelName], "=", [.modelName], "||", "{};"]]

def helperLines : List Line :=
  [["var", "__vbuffer", "=", "this.buffer;"],
    ["var", [.modelName], "=", "this.model;"],
    ["var", [.helpersName], "=", "this;"]]

def simpleResult : List Line := [["return", [.helpersName, ".buffer.join(\"\");"]]]

def hookedResult : List Line :=
  [[";(__vopts", "&&", "__vopts.onRenderEnd", "&&", "__vopts.onRenderEnd(null,",
      [.helpersName, "));"]],
    ["return", "(__vopts", "&&", "__vopts.asContext)"],
    ["", "", "?", [.helpersName]],
    ["", "", ":", [.helpersName, ".toString();"]]]

def including (condition : Bool) (lines : List Line) : List Line := if condition then lines else []

def headLines (o : Options) : List Line :=
  including o.debug [tryLine] ++ startLines ++ including o.useWith [withLine]

def tailLines (o : Options) : List Line :=
  (if o.simple then simpleResult else hookedResult) ++ including o.useWith [endLine] ++
    including o.debug catchLines

def helperHeadLines (o : Options) : List Line := including o.debug [tryLine] ++ helperLines

def helperTailLines (o : Options) : List Line := including o.debug catchLines

def head (o : Options) : String := writeLines o (headLines o)

def tail (o : Options) : String := writeLines o (tailLines o)

def helperHead (o : Options) : String := writeLines o (helperHeadLines o)

def helperTail (o : Options) : String := writeLines o (helperTailLines o)

end TemplateCode.Render
