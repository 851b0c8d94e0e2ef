import MarkdownPreview.Config.Basic

/-!
Requests to render markdown.
-/

namespace MarkdownPreview.Command

/-- What `render` is asked to do. -/
structure Request where
  input : Option String := none
  config : Option String := none
  theme : Option Theme := none
  output : Option String := none
  standalone : Bool := false
  title : Option String := none
  verbose : Bool := false
  deriving DecidableEq, Repr, Inhabited

/-- The settings that a request makes. -/
def Request.settings (r : Request) : Settings where
  theme := r.theme
  standalone := if r.standalone then some true else none
  title := r.title

end MarkdownPreview.Command
