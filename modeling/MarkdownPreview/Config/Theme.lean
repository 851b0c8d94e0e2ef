/-!
Color themes.
-/

namespace MarkdownPreview

/-- The automatic theme follows what the reader prefers. -/
inductive Theme
  | light | dark | auto
  deriving DecidableEq, Repr, Inhabited

namespace Theme

def name : Theme → String
  | light => "light"
  | dark => "dark"
  | auto => "auto"

def all : List Theme := [light, dark, auto]

def ofName? (s : String) : Option Theme := all.find? (·.name == s)

/-- A name that is no theme's, in lower case. -/
structure Unknown where
  name : String
  deriving DecidableEq, Repr

def Unknown.message (e : Unknown) : String :=
  "Configuration error: unknown theme '" ++ e.name ++ "' (expected light, dark or auto)"

/-- Reads the name of a theme, in which the case of ASCII letters does not count. -/
def parse (s : String) : Except Unknown Theme :=
  let lower := String.ofList (s.toList.map Char.toLower)
  match ofName? lower with
  | some theme => .ok theme
  | none => .error ⟨lower⟩

end Theme

end MarkdownPreview
