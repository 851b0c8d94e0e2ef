import MarkdownPreview.Text.Alphanumeric
import MarkdownPreview.Text.LowerCase
import MarkdownPreview.Text.WhiteSpace

/-!
Slugs: the form in which a heading's text names the heading in a link. The alphanumeric
characters stay, in lower case; a run of white space, dashes and underscores between them becomes
one dash; all else is dropped.
-/

namespace MarkdownPreview.Slug

open Text

/-- A character that parts the words of a slug, unless it is alphanumeric. -/
def isSeparator (c : Char) : Bool := isWhiteSpace c || c == '-' || c == '_'

/-- A slug as far as it is written. It takes no dash at its start, and none after a dash. -/
structure Draft where
  chars : List Char := []
  takesDash : Bool := false
  deriving DecidableEq, Repr, Inhabited

/-- The draft after the next character of a text. -/
def Draft.add (d : Draft) (c : Char) : Draft :=
  if isAlphanumeric c then ⟨d.chars ++ lowerCase c, true⟩
  else if d.takesDash && isSeparator c then ⟨d.chars ++ ['-'], false⟩
  else d

/-- The slug that a draft comes to. A dash at its end is taken away again. -/
def Draft.finish (d : Draft) : List Char :=
  if d.chars.getLast? = some '-' then d.chars.dropLast else d.chars

/-- The slug of a text. -/
def slugify (text : String) : String :=
  String.ofList ((trim text.toList).foldl Draft.add {}).finish

end MarkdownPreview.Slug
