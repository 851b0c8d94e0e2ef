import MarkdownPreview.Markdown.BlockStart
import MarkdownPreview.Markdown.HtmlBlock
import MarkdownPreview.Markdown.LinkLabel
import MarkdownPreview.Markdown.TableHead

/-!
The lines that end a paragraph, or the rows of a table, without a blank line before them.
-/

namespace MarkdownPreview.Markdown

/-- Whether a line whose text begins at `i` ends a row of text. Outside of the container of that
text, and in tables, list items of any number do so. -/
def interruptsText (src : Source) (anyNumber : Bool) (i : Nat) : Bool :=
  src.atLineEnd i || (thematicBreak? src i).isSome || (headingLevel? src i).isSome ||
  (fence? src i).isSome || src.isAt '>' i || ListMark.interrupts src anyNumber i ||
  HtmlBlock.interrupts src i || (LinkLabel.footnoteDefinition? src i).isSome

/-- Whether a line ends a paragraph; `inside` is whether it has all the prefixes. -/
def interruptsParagraph (src : Source) (prefixes : List LinePrefix) (inside : Bool) (i : Nat) :
    Bool :=
  interruptsText src (!inside) i || (inside && TableHead.opens src prefixes i)

end MarkdownPreview.Markdown
