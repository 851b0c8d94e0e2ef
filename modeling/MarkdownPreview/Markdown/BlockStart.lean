import MarkdownPreview.Markdown.Cursor

/-!
The marks by which blocks are known: thematic breaks, headings, fences and list items.
-/

namespace MarkdownPreview.Markdown

/-- The position after a thematic break: three or more of one mark, with nothing but spaces and
tabs between them. -/
def thematicBreak? (src : Source) (i : Nat) : Option Nat :=
  match src[i]? with
  | some c =>
    if c == '*' || c == '-' || c == '_' then
      let stop := src.skip (fun d => d == c || d == ' ' || d == '\t') i
      if 3 ≤ (src.slice i stop).count c then src.lineEnd? stop else none
    else none
  | none => none

/-- The level of a heading that is opened by number signs. -/
def headingLevel? (src : Source) (i : Nat) : Option Nat :=
  let level := src.runLength '#' i
  if 1 ≤ level && level ≤ 6 && src[i + level]?.all isBlankOrLineEnd then some level else none

/-- The level that a heading's underline gives, and the position after the line. -/
def underline? (src : Source) (i : Nat) : Option (Nat × Nat) :=
  match src[i]? with
  | some '=' => (src.blankLine? (i + src.runLength '=' i)).map (1, ·)
  | some '-' => (src.blankLine? (i + src.runLength '-' i)).map (2, ·)
  | _ => none

/-- The mark of a fence and the length of its run. No backtick follows a fence of backticks in its
line. -/
def fence? (src : Source) (i : Nat) : Option (Char × Nat) :=
  match src[i]? with
  | some '`' =>
    let n := src.runLength '`' i
    if 3 ≤ n && !(src.slice (i + n) (src.nextLine (i + n))).contains '`' then some ('`', n)
    else none
  | some '~' =>
    let n := src.runLength '~' i
    if 3 ≤ n then some ('~', n) else none
  | _ => none

/-- The end of a fence that closes one of `n` marks. The end of the source closes every fence. -/
def closingFence? (src : Source) (mark : Char) (n i : Nat) : Option Nat :=
  if src.size ≤ i then some i
  else
    let run := src.runLength mark i
    let stop := src.skip (· == ' ') (i + run)
    if n ≤ run && src.atLineEnd stop then some stop else none

/-- The mark of a list item, the number before it, and the columns by which the item's lines are
indented. -/
structure ListMark where
  mark : Char
  number : Nat
  indent : Nat
  deriving DecidableEq, Repr, Inhabited

namespace ListMark

def isBullet (c : Char) : Bool := c == '-' || c == '+' || c == '*'

/-- The number written at `i` by at most nine digits, the mark after it, and the position after
the mark. -/
def numbered? (src : Source) (i : Nat) : Option (Nat × Char × Nat) :=
  let stop := src.skip Char.isDigit i
  match src[stop]? with
  | some c =>
    if i < stop && stop ≤ i + 9 && (c == '.' || c == ')') then
      some ((src.slice i stop).foldl (fun n d => 10 * n + (d.toNat - 48)) 0, c, stop + 1)
    else none
  | none => none

/-- The mark at `i` without regard to what follows it, and the position after it. -/
def bare? (src : Source) (i : Nat) : Option (Nat × Char × Nat) :=
  match src[i]? with
  | some c => if isBullet c then some (0, c, i + 1) else numbered? src i
  | none => none

/-- Up to three more columns before the text belong to the indentation of the item. -/
def withText (src : Source) (m : ListMark) (k : Cursor) : ListMark × Cursor :=
  if src.isBlankLine k.pos then (m, k)
  else
    let (more, after) := k.spacesUpTo src 4
    if more < 4 then ({ m with indent := m.indent + more }, after) else (m, k)

/-- Takes the mark of a list item that stands `outer` columns into the line. -/
def take? (src : Source) (outer : Nat) (k : Cursor) : Option (ListMark × Cursor) :=
  if (thematicBreak? src k.pos).isSome then none
  else match bare? src k.pos with
    | some (number, mark, stop) =>
      let after : Cursor := { k with pos := stop }
      let indent := outer + (stop - k.pos) + 1
      match after.spaces? src 1 with
      | some after => some (withText src ⟨mark, number, indent⟩ after)
      | none =>
        if after.atLineEnd src then some (withText src ⟨mark, number, indent⟩ after) else none
    | none => none

/-- Whether nothing follows in the line and the next line is blank as well. -/
def isEmptyItem (src : Source) (i : Nat) : Bool := (src.blankLine? i).any src.isBlankLine

/-- Whether a list item at `i` ends a paragraph. In the container of the paragraph only a bullet
or the number one does, with an item that is not empty. -/
def interrupts (src : Source) (anyNumber : Bool) (i : Nat) : Bool :=
  match bare? src i with
  | some (number, mark, stop) =>
    (src.anyAt (fun c => c == ' ' || c == '\t') stop || src.atLineEnd stop) &&
      (anyNumber || ((isBullet mark || number == 1) && !isEmptyItem src stop))
  | none => false

end ListMark

end MarkdownPreview.Markdown
