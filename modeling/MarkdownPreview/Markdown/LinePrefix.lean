import MarkdownPreview.Markdown.Cursor

/-!
What the containers of a block ask of each of its lines: the mark of a quote, or an indentation.
A line that is blank needs no indentation.
-/

namespace MarkdownPreview.Markdown

inductive LinePrefix
  | quote
  | indent (columns : Nat)
  deriving DecidableEq, Repr, Inhabited

namespace LinePrefix

def take? (src : Source) (k : Cursor) : LinePrefix → Option Cursor
  | quote => k.quoteMark? src
  | indent columns =>
    let (missing, after) := k.takeColumns src (columns + 1) columns
    if missing = 0 || after.atLineEnd src then some after else none

/-- Takes the prefixes of a line, the outermost first, as far as they stand there; also gives the
number of those that do not. -/
def takeAll (src : Source) : List LinePrefix → Cursor → Nat × Cursor
  | [], k => (0, k)
  | p :: ps, k =>
    match p.take? src k with
    | some k => takeAll src ps k
    | none => (ps.length + 1, k)

/-- The cursor after the prefixes of the line at `i`, and whether all of them stand there. -/
def enterLine (src : Source) (prefixes : List LinePrefix) (i : Nat) : Bool × Cursor :=
  let (missing, k) := takeAll src prefixes (.atLine i)
  (missing == 0, k)

/-- The position after those prefixes of the line at `i` that stand there. -/
def textStart (src : Source) (prefixes : List LinePrefix) (i : Nat) : Nat :=
  (enterLine src prefixes i).2.pos

end LinePrefix

end MarkdownPreview.Markdown
