import MarkdownPreview.Markdown.Entity
import MarkdownPreview.Text.Punctuation

/-!
Escapes in link targets and information strings: a backslash before punctuation, and character
references. Carriage returns are dropped.
-/

namespace MarkdownPreview.Markdown

open Text

def isPunctuationAt (src : Source) (i : Nat) : Bool := src.anyAt isAsciiPunctuation i

/-- Reads the part of the source before `stop`; the text that was read so far comes newest first.
In a table, two backslashes before a vertical line count as one. -/
def unescapeFrom (src : Source) (inTable : Bool) (stop : Nat) :
    (fuel i : Nat) → List Char → List Char
  | 0, _, out => out.reverse
  | fuel + 1, i, out =>
    match src[i]? with
    | none => out.reverse
    | some c =>
      if stop ≤ i then out.reverse
      else if c == '\\' then
        if inTable && i + 2 < stop && src.isAt '\\' (i + 1) && src.isAt '|' (i + 2) then
          unescapeFrom src inTable stop fuel (i + 3) ('|' :: out)
        else if i + 1 < stop && isPunctuationAt src (i + 1) then
          unescapeFrom src inTable stop fuel (i + 2) (src.getD (i + 1) c :: out)
        else unescapeFrom src inTable stop fuel (i + 1) (c :: out)
      else if c == '\r' then unescapeFrom src inTable stop fuel (i + 1) out
      else
        match Entity.read? src i with
        | some (s, next) =>
          if next ≤ stop then
            unescapeFrom src inTable stop fuel next (s.toList.reverse ++ out)
          else unescapeFrom src inTable stop fuel (i + 1) (c :: out)
        | none => unescapeFrom src inTable stop fuel (i + 1) (c :: out)

/-- The text between two positions, without its escapes. -/
def unescape (src : Source) (inTable : Bool) (start stop : Nat) : String :=
  String.ofList (unescapeFrom src inTable stop (stop - start) start [])

end MarkdownPreview.Markdown
