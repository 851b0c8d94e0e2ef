import MarkdownPreview.Markdown.Block.Reader
import MarkdownPreview.Markdown.Inline.Reader

/-!
Reading markdown: the blocks of a text first, then the inline content of each, reported as events.
-/

namespace MarkdownPreview.Markdown

/-- A document whose blocks are read. -/
structure Reading where
  src : Source
  references : References

namespace Reading

/-- The events of inline content, and the budget that is left. -/
def content (d : Reading) (c : Content) (budget : Nat) : List Event × Nat :=
  let (inlines, budget) := c.inlines d.src d.references budget
  (Inline.eventsOf inlines, budget)

/-- The events of the cells of a row. -/
def cells (d : Reading) : List Content → Nat → List Event × Nat
  | [], budget => ([], budget)
  | c :: cs, budget =>
    let (cell, budget) := d.content c budget
    let (row, budget) := d.cells cs budget
    (Tag.around .tableCell cell ++ row, budget)

def rows (d : Reading) : List (List Content) → Nat → List Event × Nat
  | [], budget => ([], budget)
  | row :: rest, budget =>
    let (cells, budget) := d.cells row budget
    let (rows, budget) := d.rows rest budget
    (Tag.around .tableRow cells ++ rows, budget)

mutual

/-- The events of a block, and the budget that it leaves. -/
def block (d : Reading) : Block → Nat → List Event × Nat
  | .paragraph tight c, budget =>
    let (content, budget) := d.content c budget
    (if tight then content else Tag.around .paragraph content, budget)
  | .heading level id classes c, budget =>
    let (content, budget) := d.content c budget
    (Tag.around (.heading level id classes) content, budget)
  | .quote children, budget =>
    let (content, budget) := d.blocks children budget
    (Tag.around .blockQuote content, budget)
  | .code info literal, budget =>
    let tag : Tag := match info with
      | some info => .fencedCode info
      | none => .indentedCode
    (Tag.around tag [.text literal], budget)
  | .html literal, budget => (Tag.around .htmlBlock [.html literal], budget)
  | .list start items, budget =>
    let (content, budget) := d.blocks items budget
    (Tag.around (.list start) content, budget)
  | .item children, budget =>
    let (content, budget) := d.blocks children budget
    (Tag.around .item content, budget)
  | .footnote label children, budget =>
    let (content, budget) := d.blocks children budget
    (Tag.around (.footnoteDefinition label) content, budget)
  | .table alignments head rows, budget =>
    let (head, budget) := d.cells head budget
    let (rows, budget) := d.rows rows budget
    (Tag.around (.table alignments) (Tag.around .tableHead head ++ rows), budget)
  | .rule, budget => ([.rule], budget)

def blocks (d : Reading) : List Block → Nat → List Event × Nat
  | [], budget => ([], budget)
  | b :: bs, budget =>
    let (first, budget) := d.block b budget
    let (rest, budget) := d.blocks bs budget
    (first ++ rest, budget)

end

end Reading

/-- The size of the targets that references may repeat: that of the text, but at least this. -/
def leastBudget : Nat := 100000

/-- The events of a markdown text. -/
def events (text : String) : List Event :=
  let src : Source := text.toList.toArray
  let outline := Outline.read src
  (Reading.blocks ⟨src, ⟨outline.definitions, outline.footnotes⟩⟩ outline.blocks
    (max text.utf8ByteSize leastBudget)).1

end MarkdownPreview.Markdown
