import MarkdownPreview.Markdown.BlockStart
import MarkdownPreview.Markdown.HtmlBlock
import MarkdownPreview.Markdown.Unescape

/-!
Code blocks, by indentation and by fences.
-/

namespace MarkdownPreview.Markdown

namespace IndentedCode

/-- A line of code, and whether it is blank. -/
structure CodeLine where
  text : List Char
  blank : Bool
  deriving DecidableEq, Repr, Inhabited

/-- The lines from `i` on that are indented or blank, and the position after them. -/
def readLines (src : Source) (prefixes : List LinePrefix) :
    (fuel columns : Nat) → (blank : Bool) → (i : Nat) → List CodeLine × Nat
  | 0, _, _, i => ([], i)
  | fuel + 1, columns, blank, i =>
    let stop := src.nextLine i
    let line : CodeLine := ⟨verbatimLine src columns i stop, blank⟩
    let (inside, k) := LinePrefix.enterLine src prefixes stop
    match (LinePrefix.indent 4).take? src k with
    | some k =>
      if inside && k.pos < src.size then
        let (lines, next) := readLines src prefixes fuel k.pending (src.isBlankLine k.pos) k.pos
        (line :: lines, next)
      else ([line], stop)
    | none => ([line], stop)

/-- The code from a cursor on, the position after its lines, and whether the last of them was
blank. Blank lines at the end do not belong to the code. -/
def read (src : Source) (prefixes : List LinePrefix) (k : Cursor) : String × Nat × Bool :=
  let (lines, next) := readLines src prefixes (src.size - k.pos + 1) k.pending false k.pos
  let kept := (lines.reverse.dropWhile (·.blank)).reverse
  (String.ofList (kept.flatMap (·.text)), next, lines.getLast?.any (·.blank))

end IndentedCode

namespace FencedCode

/-- The lines from `i` on up to the closing fence, and the position after it. -/
def readLines (src : Source) (prefixes : List LinePrefix) (indent : Nat) (mark : Char) (n : Nat) :
    (fuel i : Nat) → List Char × Nat
  | 0, i => ([], i)
  | fuel + 1, i =>
    let (inside, k) := LinePrefix.enterLine src prefixes i
    if !inside then ([], i)
    else
      let k := (k.spacesUpTo src indent).2
      match (k.shallow? src).bind fun k => closingFence? src mark n k.pos with
      | some stop => ([], (src.blankLine? stop).getD stop)
      | none =>
        let next := src.nextLine k.pos
        let (lines, after) := readLines src prefixes indent mark n fuel next
        (verbatimLine src k.pending k.pos next ++ lines, after)

/-- The information string and the code of the block whose fence begins at `i`, and the position
after the block. -/
def read (src : Source) (prefixes : List LinePrefix) (indent : Nat) (mark : Char) (n i : Nat) :
    String × String × Nat :=
  let start := src.skip isBlank (i + n)
  let next := src.nextLine start
  let info := unescape src false start (src.skipBack isBlankOrLineEnd start next)
  let (code, after) := readLines src prefixes indent mark n (src.size - next + 1) next
  (info, String.ofList code, after)

end FencedCode

end MarkdownPreview.Markdown
