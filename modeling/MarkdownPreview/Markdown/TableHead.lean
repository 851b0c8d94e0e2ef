import MarkdownPreview.Event
import MarkdownPreview.Markdown.LinePrefix

/-!
The first two lines of a table: the names of the columns, and the row of hyphens that gives the
alignment of each. Both have the same number of columns.
-/

namespace MarkdownPreview.Markdown.TableHead

/-- A column of the row of hyphens, as far as it was read. -/
structure Column where
  started : Bool := false
  hyphen : Bool := false
  alignment : Alignment := .none
  deriving DecidableEq, Repr, Inhabited

namespace Column

def colon (c : Column) : Column :=
  { c with
    started := true
    alignment := match c.started, c.alignment with
      | false, .none => .left
      | true, .left => .center
      | true, .none => .right
      | _, a => a }

def dash (c : Column) : Column := { c with started := true, hyphen := true }

end Column

/-- The alignments that a row of hyphens gives; `pipe` is whether a vertical line was read. Every
column but the last needs a hyphen of its own. -/
def alignmentsFrom (pipe hyphen : Bool) (column : Column) : List Char → Option (List Alignment)
  | [] =>
    if pipe && hyphen then some (if column.started then [column.alignment] else []) else none
  | ' ' :: cs => alignmentsFrom pipe hyphen column cs
  | ':' :: cs => alignmentsFrom pipe hyphen column.colon cs
  | '-' :: cs => alignmentsFrom pipe true column.dash cs
  | '|' :: cs =>
    if column.hyphen then (alignmentsFrom true hyphen {} cs).map (column.alignment :: ·) else none
  | _ => none

/-- The alignments of the row at a cursor, and the position after its line. -/
def alignments? (src : Source) (k : Cursor) : Option (List Alignment × Nat) :=
  ((Cursor.atLine k.pos).shallow? src).bind fun k =>
    let stop := src.skip (!isLineEnd ·) k.pos
    let row := match src.slice k.pos stop with
      | '|' :: cs => alignmentsFrom true false {} cs
      | cs => alignmentsFrom false false {} cs
    row.bind fun alignments => (src.lineEnd? stop).map (alignments, ·)

/-- The number of columns of the line at `i`, from the number of its vertical lines and the
position of the last. -/
def columnCount (src : Source) (i pipes lastPipe : Nat) : Nat :=
  let inner := if src.isAt '|' (src.skip isBlank i) then pipes - 1 else pipes
  if src.isBlankLine (lastPipe + 1) then inner else inner + 1

/-- The table that opens with the line at `i`: its alignments and the position after the row of
hyphens, which is the line at `next`. -/
def read? (src : Source) (prefixes : List LinePrefix) (i pipes lastPipe next : Nat) :
    Option (List Alignment × Nat) :=
  if pipes = 0 then none
  else
    let (inside, k) := LinePrefix.enterLine src prefixes next
    if inside then
      (alignments? src k).bind fun (alignments, after) =>
        if alignments.length = columnCount src i pipes lastPipe then some (alignments, after)
        else none
    else none

/-- The vertical lines of a line without a backslash before them, with the position of the last,
and the position where the line ends. -/
def countPipes (src : Source) : (fuel pipes lastPipe i : Nat) → Nat × Nat × Nat
  | 0, pipes, lastPipe, i => (pipes, lastPipe, i)
  | fuel + 1, pipes, lastPipe, i =>
    match src[i]? with
    | none => (pipes, lastPipe, i)
    | some c =>
      if isLineEnd c then (pipes, lastPipe, i)
      else if c == '\\' && src.anyAt (fun d => d != '\\' && !isLineEnd d) (i + 1) then
        countPipes src fuel pipes lastPipe (i + 2)
      else if c == '|' then countPipes src fuel (pipes + 1) i (i + 1)
      else countPipes src fuel pipes lastPipe (i + 1)

/-- Whether a table opens with the line whose text begins at `i`. -/
def opens (src : Source) (prefixes : List LinePrefix) (i : Nat) : Bool :=
  let (pipes, lastPipe, stop) := countPipes src (src.size - i) 0 i i
  match src.lineEnd? stop with
  | some next => stop < src.size && (read? src prefixes i pipes lastPipe next).isSome
  | none => false

end MarkdownPreview.Markdown.TableHead
