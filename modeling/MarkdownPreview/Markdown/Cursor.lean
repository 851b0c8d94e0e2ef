import MarkdownPreview.Markdown.Source

/-!
Columns at the start of a line. A tab reaches to the next multiple of four columns, and part of a
tab can be taken: the cursor keeps the columns of it that are left.
-/

namespace MarkdownPreview.Markdown

/-- A position in a line, the position from which tabs are counted, and the columns that are left
of a tab. -/
structure Cursor where
  pos : Nat
  tabOrigin : Nat
  pending : Nat
  deriving DecidableEq, Repr, Inhabited

namespace Cursor

def atLine (i : Nat) : Cursor := ⟨i, i, 0⟩

/-- Takes at most `n` columns of spaces; also gives the number of columns that were missing. -/
def takeColumns (src : Source) (fuel : Nat) (n : Nat) (k : Cursor) : Nat × Cursor :=
  match fuel with
  | 0 => (n, k)
  | fuel + 1 =>
    if n = 0 then (0, k)
    else if 0 < k.pending then
      let taken := min k.pending n
      takeColumns src fuel (n - taken) { k with pending := k.pending - taken }
    else if src.isAt ' ' k.pos then
      takeColumns src fuel (n - 1) { k with pos := k.pos + 1 }
    else if src.isAt '\t' k.pos then
      let width := 4 - (k.pos - k.tabOrigin) % 4
      let taken := min width n
      takeColumns src fuel (n - taken) ⟨k.pos + 1, k.pos + 1, width - taken⟩
    else (n, k)

/-- Takes exactly `n` columns of spaces. -/
def spaces? (src : Source) (n : Nat) (k : Cursor) : Option Cursor :=
  match k.takeColumns src (n + 1) n with
  | (0, k) => some k
  | _ => none

/-- Takes at most `n` columns of spaces; also gives their number. -/
def spacesUpTo (src : Source) (n : Nat) (k : Cursor) : Nat × Cursor :=
  let (missing, k) := k.takeColumns src (n + 1) n
  (n - missing, k)

/-- Takes the columns before the text, if there are fewer than four. -/
def shallow? (src : Source) (k : Cursor) : Option Cursor :=
  let (n, after) := k.spacesUpTo src 4
  if n < 4 then some after else none

/-- Takes all spaces and tabs. -/
def allSpaces (src : Source) (k : Cursor) : Cursor :=
  { k with pos := src.skip (fun c => c == ' ' || c == '\t') k.pos, pending := 0 }

def atLineEnd (src : Source) (k : Cursor) : Bool := src.atLineEnd k.pos

/-- Takes the mark of a block quote: up to three columns, `>`, and a column if there is one. -/
def quoteMark? (src : Source) (k : Cursor) : Option Cursor :=
  let (_, k) := k.spacesUpTo src 3
  if src.isAt '>' k.pos then some ({ k with pos := k.pos + 1 }.spacesUpTo src 1).2 else none

end Cursor

end MarkdownPreview.Markdown
