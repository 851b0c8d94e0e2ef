import MarkdownPreview.Html.Escape

/-!
Emoji: most are glyphs; some have no glyph and are shown as a small image.
-/

namespace MarkdownPreview

inductive Emoji
  | glyph (text : String)
  | image (file : String)
  deriving DecidableEq, Repr, Inhabited

namespace Emoji

/-- Where the images are. -/
def imageBase : String := "/static/emojis"

def imagePath (file : String) : String := imageBase ++ "/" ++ file

/-- How an emoji is written; an image carries its shortcode as title and as alternative text. -/
def markup (code : String) : Emoji → String
  | glyph text => text
  | image file =>
    let label := Html.escape code
    "<img class=\"emoji\" title=\"" ++ label ++ "\" alt=\"" ++ label ++ "\" src=\"" ++
      imagePath file ++ "\" height=\"20\" width=\"20\" align=\"absmiddle\">"

end Emoji

end MarkdownPreview
