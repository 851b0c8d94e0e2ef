import MarkdownPreview.Markdown.Interrupt
import MarkdownPreview.Markdown.Token.Line

/-!
The rows of a table. Every row has as many cells as there are columns: missing cells are empty,
and those that are too many are dropped.
-/

namespace MarkdownPreview.Markdown.Table

/-- The cells from `i` on to the end of the line, and the position after it. -/
def readCells (src : Source) (prefixes : List LinePrefix) :
    (fuel : Nat) → (braces : Braces) → (i : Nat) → List Content × Braces × Nat
  | 0, braces, i => ([], braces, i)
  | fuel + 1, braces, i =>
    let start := src.skip isBlank (if src.isAt '|' i then i + 1 else i)
    match src.lineEnd? start with
    | some next => ([], braces, next)
    | none =>
      let line := Line.read src .cell braces start
      let (cells, braces, next) := readCells src prefixes fuel line.braces line.next
      (⟨line.tokens, line.next, prefixes, true⟩ :: cells, braces, next)

/-- As many cells as there are columns. -/
def fill (columns next : Nat) (cells : List Content) : List Content :=
  cells.take columns ++ List.replicate (columns - cells.length) ⟨[], next, [], true⟩

/-- The rows from `i` on, and the position after them. A line without any cell ends the table. -/
def readRows (src : Source) (prefixes : List LinePrefix) (columns : Nat) :
    (fuel : Nat) → (braces : Braces) → (i : Nat) → List (List Content) × Nat
  | 0, _, i => ([], i)
  | fuel + 1, braces, i =>
    let (inside, k) := LinePrefix.enterLine src prefixes i
    let start := (k.allSpaces src).pos
    if !inside || interruptsText src true start then ([], i)
    else match readCells src prefixes (src.size - start + 1) braces start with
      | ([], _, _) => ([], i)
      | (cells, braces, next) =>
        let (rows, after) := readRows src prefixes columns fuel braces next
        (fill columns next cells :: rows, after)

/-- The head and the rows of the table whose text begins at `i`; its rows begin at `body`. -/
def read (src : Source) (prefixes : List LinePrefix) (columns : Nat) (braces : Braces)
    (i body : Nat) : List Content × List (List Content) × Nat :=
  let (head, braces, next) := readCells src prefixes (src.size - i + 1) braces i
  let (rows, after) := readRows src prefixes columns (src.size - body + 1) braces body
  (fill columns next head, rows, after)

end MarkdownPreview.Markdown.Table
