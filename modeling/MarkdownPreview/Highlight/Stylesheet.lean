/-!
Stylesheets for highlighted code, as lists of rules, and their text.
-/

namespace MarkdownPreview.Highlight

/-- What a rule sets for the elements that one of its selectors selects. Colors are written in
hexadecimal digits. -/
structure StyleRule where
  selectors : List String
  color : Option String := none
  background : Option String := none
  bold : Bool := false
  italic : Bool := false
  deriving DecidableEq, Repr, Inhabited

structure Stylesheet where
  name : String
  color : String
  background : String
  rules : List StyleRule
  deriving DecidableEq, Repr, Inhabited

/-- Opens and closes the declarations of a rule. -/
def braced (declarations : String) : String := " \x7b\n" ++ declarations ++ "\x7d\n"

def colorLine (digits : String) : String := " color: #" ++ digits ++ ";\n"

def backgroundLine (digits : String) : String := " background-color: #" ++ digits ++ ";\n"

def StyleRule.text (rule : StyleRule) : String :=
  ", ".intercalate rule.selectors ++
    braced ((rule.color.map colorLine).getD "" ++ (rule.background.map backgroundLine).getD "" ++
      (if rule.bold then "font-weight: bold;\n" else "") ++
      (if rule.italic then "font-style: italic;\n" else ""))

/-- The text of a stylesheet: a comment, the colors of all code, then the rules in order. -/
def Stylesheet.text (sheet : Stylesheet) : String :=
  "/*\n * theme \"" ++ sheet.name ++ "\" generated by syntect\n */\n\n.code" ++
    braced (colorLine sheet.color ++ backgroundLine sheet.background) ++ "\n" ++
    String.join (sheet.rules.map StyleRule.text)

end MarkdownPreview.Highlight
