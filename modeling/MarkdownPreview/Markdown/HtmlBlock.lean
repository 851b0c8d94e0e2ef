import MarkdownPreview.Markdown.HtmlTag
import MarkdownPreview.Markdown.LinePrefix

/-!
Blocks of HTML. A block either ends with the line that holds its closing text, or before a blank
line.
-/

namespace MarkdownPreview.Markdown.HtmlBlock

/-- How a block ends. -/
inductive Ending
  | after (closing : String)
  | blankLine
  deriving DecidableEq, Repr, Inhabited

/-- Elements whose content is not read as markdown, with their closing tags. -/
def verbatimElements : List (String × String) :=
  [("pre", "</pre>"), ("style", "</style>"), ("script", "</script>"), ("textarea", "</textarea>")]

/-- Other openings of verbatim blocks, with what closes them. -/
def verbatimMarks : List (String × String) :=
  [("!--", "-->"), ("?", "?>"), ("![CDATA[", "]]>")]

/-- The closing text of a verbatim block; `i` is after the `<`. -/
def closing? (src : Source) (i : Nat) : Option String :=
  match verbatimElements.find? fun (name, _) =>
      src.textAtAnyCase name.toList i &&
        src[i + name.length]?.all fun c => isBlankOrLineEnd c || c == '>' with
  | some (_, closing) => some closing
  | none =>
    match verbatimMarks.find? fun (mark, _) => src.textAt mark.toList i with
    | some (_, closing) => some closing
    | none => if src.isAt '!' i && src.anyAt isAsciiLetter (i + 1) then some ">" else none

/-- Elements whose tags open a block wherever a block can begin. -/
def blockElements : List String :=
  ["address", "article", "aside", "base", "basefont", "blockquote", "body", "caption", "center",
   "col", "colgroup", "dd", "details", "dialog", "dir", "div", "dl", "dt", "fieldset",
   "figcaption", "figure", "footer", "form", "frame", "frameset", "h1", "h2", "h3", "h4", "h5",
   "h6", "head", "header", "hr", "html", "iframe", "legend", "li", "link", "main", "menu",
   "menuitem", "nav", "noframes", "ol", "optgroup", "option", "p", "param", "search", "section",
   "summary", "table", "tbody", "td", "tfoot", "th", "thead", "title", "tr", "track", "ul"]

/-- Whether the tag of a block element opens; `i` is after the `<`. -/
def opensElement (src : Source) (i : Nat) : Bool :=
  let start := if src.isAt '/' i then i + 1 else i
  let stop := src.skip isAsciiAlphanumeric start
  let name := String.ofList ((src.slice start stop).map Char.toLower)
  blockElements.contains name &&
    (src[stop]?.all (fun c => c == ' ' || c == '\t' || isLineEnd c || c == '>') ||
      src.textAt ['/', '>'] stop)

/-- Whether some tag stands alone in the line; `i` is at the `<`. -/
def isLoneTag (src : Source) (i : Nat) : Bool := (HtmlTag.read? src none i).any src.isBlankLine

/-- The ending of the block that opens with the `<` at `i`. -/
def ending? (src : Source) (i : Nat) : Option Ending :=
  if !src.isAt '<' i then none
  else match closing? src (i + 1) with
    | some closing => some (.after closing)
    | none =>
      if opensElement src (i + 1) || isLoneTag src i then some .blankLine else none

/-- Whether a block at `i` ends a paragraph. A lone tag does not. -/
def interrupts (src : Source) (i : Nat) : Bool :=
  src.isAt '<' i && ((closing? src (i + 1)).isSome || opensElement src (i + 1))

end HtmlBlock

/-- A line of code or HTML, after the columns that are left of a tab. A carriage return before the
line feed is dropped. -/
def verbatimLine (src : Source) (columns start stop : Nat) : List Char :=
  List.replicate columns ' ' ++
    if src.isAt '\r' (stop - 2) && 2 ≤ stop then
      src.slice start (stop - 2) ++ src.slice (stop - 1) stop
    else src.slice start stop

namespace HtmlBlock

/-- Whether a line closes the block. -/
def closesIn (src : Source) (start stop : Nat) : Ending → Bool
  | .after closing => (List.range (stop - start)).any fun n =>
      start + n + closing.length ≤ stop && src.textAt closing.toList (start + n)
  | .blankLine => false

/-- Whether the block goes on with the line whose text begins at `i`. -/
def continuesAt (src : Source) (i : Nat) : Ending → Bool
  | .after _ => i < src.size
  | .blankLine => i < src.size && !src.isBlankLine i

/-- The lines of the block from `i` on, and the position after them. -/
def readLines (src : Source) (prefixes : List LinePrefix) (ending : Ending) :
    (fuel columns i : Nat) → List Char × Nat
  | 0, _, i => ([], i)
  | fuel + 1, columns, i =>
    let stop := src.nextLine i
    let line := verbatimLine src columns i stop
    let (inside, k) := LinePrefix.enterLine src prefixes stop
    if inside && !closesIn src i stop ending && continuesAt src k.pos ending then
      let (lines, next) := readLines src prefixes ending fuel k.pending k.pos
      (line ++ lines, next)
    else (line, stop)

end HtmlBlock

end MarkdownPreview.Markdown
