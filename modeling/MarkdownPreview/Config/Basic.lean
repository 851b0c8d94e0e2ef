import MarkdownPreview.Config.Theme
import MarkdownPreview.Files.Error
import MarkdownPreview.Text.WhiteSpace

/-!
Configurations, settings that override them, and what makes a configuration invalid.
-/

namespace MarkdownPreview

/-- How previews are made, and the file that says so. -/
structure Config where
  theme : Theme := .auto
  /-- Whether the fragment is put into a complete page. -/
  standalone : Bool := false
  title : Option String := none
  path : Option String := none
  deriving DecidableEq, Repr, Inhabited

/-- Settings of a file or of one run. Each one that is given overrides the configuration. -/
structure Settings where
  theme : Option Theme := none
  standalone : Option Bool := none
  title : Option String := none
  deriving DecidableEq, Repr, Inhabited

namespace Config

/-- Why there is no configuration. -/
inductive Error
  | notFound (path : String)
  | unreadable (cause : FileError)
  | malformed (cause : String)
  | blankTitle
  deriving DecidableEq, Repr

def Error.message : Error → String
  | notFound path => "Configuration file not found: " ++ path
  | unreadable cause => "I/O error: " ++ cause.message
  | malformed cause => "TOML parse error: " ++ cause
  | blankTitle => "Configuration error: output.title cannot be empty"

def isBlank (text : String) : Bool := text.toList.all Text.isWhiteSpace

/-- A title must not be blank. -/
def validate (config : Config) : Except Error Config :=
  if config.title.any isBlank then .error .blankTitle else .ok config

def override (config : Config) (settings : Settings) : Config where
  theme := settings.theme.getD config.theme
  standalone := settings.standalone.getD config.standalone
  title := settings.title.or config.title
  path := config.path

end Config

end MarkdownPreview
