import MarkdownPreview.Markdown.CodeBlock
import MarkdownPreview.Markdown.Container
import MarkdownPreview.Markdown.Paragraph

/-!
Reading blocks. Each step matches the prefixes of a line with the open containers, opens the
containers that begin there, and reads one block.
-/

namespace MarkdownPreview.Markdown

namespace BlockState

/-- Opens the definition of a footnote. It closes one that is open. -/
def openFootnote (s : BlockState) (label : String) : BlockState :=
  let s := s.closeList
  let s := if s.top?.any (·.isFootnote) then s.pop else s
  { s with footnotes := LinkLabel.key label :: s.footnotes }.push (.footnote label)

/-- Opens a container that begins at a cursor, if one does; also gives the cursor after its
mark. -/
def openContainer? (src : Source) (s : BlockState) (k : Cursor) : Option (BlockState × Cursor) :=
  let (outer, k) := k.spacesUpTo src 4
  if 4 ≤ outer then none
  else match LinkLabel.footnoteDefinition? src k.pos with
    | some (label, next) => some (s.openFootnote label, .atLine (src.skip isBlank next))
    | none =>
      match ListMark.take? src outer k with
      | some (m, k) => some ((s.openList m).push (.item m.indent), k)
      | none => (k.quoteMark? src).map (s.closeList.push .quote, ·)

/-- Where the containers that begin in a line lead to: an item without text in its line, or a
cursor at the text. -/
inductive Opened
  | emptyItem (next : Nat)
  | text (k : Cursor)
  deriving DecidableEq, Repr, Inhabited

/-- Opens the containers that begin at a cursor. -/
def openContainers (src : Source) : (fuel : Nat) → BlockState → Cursor → BlockState × Opened
  | 0, s, k => (s, .text k)
  | fuel + 1, s, k =>
    match openContainer? src s k with
    | none => (s, .text k)
    | some (s, k) =>
      match if s.top?.any (·.isItem) then src.blankLine? k.pos else none with
      | some next => ({ s with itemOpened := true }, .emptyItem next)
      | none => openContainers src fuel s k

/-- Reads the link definitions from `i` on. The text of a paragraph may follow in the line after
the last of them. Gives the position where it does, or else the position after the definitions. -/
def readDefinitions (src : Source) (prefixes : List LinePrefix) :
    (fuel : Nat) → BlockState → (i : Nat) → BlockState × (Nat ⊕ Nat)
  | 0, s, i => (s, .inl i)
  | fuel + 1, s, i =>
    match LinkDefinition.read? src prefixes i with
    | none => (s, .inl i)
    | some (definition, stop) =>
      let s := { s with definitions := definition :: s.definitions }
      match src.blankLine? stop with
      | none => (s, .inr stop)
      | some next =>
        let (inside, k) := LinePrefix.enterLine src prefixes next
        let k' := k.shallow? src
        if k'.any fun k => interruptsParagraph src prefixes inside k.pos then (s, .inr next)
        else
          readDefinitions src prefixes fuel s ((k'.getD (k.spacesUpTo src 4).2).allSpaces src).pos

/-- Reads the block whose text begins at a cursor, in a line that is not blank; also gives the
position after it. -/
def readLeaf (src : Source) (s : BlockState) (k : Cursor) : BlockState × Nat :=
  let s := s.closeList
  let prefixes := s.prefixes
  let (columns, start) := k.spacesUpTo src 4
  let i := start.pos
  if columns = 4 then
    let (code, next, afterBlank) := IndentedCode.read src prefixes start
    ({ s.add (.code none code) with afterBlank := afterBlank }, next)
  else match HtmlBlock.ending? src i with
    | some ending =>
      let (lines, next) := HtmlBlock.readLines src prefixes ending (src.size - i + 1)
        (max k.pending columns) i
      (s.add (.html (String.ofList lines)), next)
    | none =>
      match thematicBreak? src i with
      | some next => (s.add .rule, next)
      | none =>
        match headingLevel? src i with
        | some level =>
          let (heading, next) := Heading.read src prefixes level i
          (s.add heading, next)
        | none =>
          match fence? src i with
          | some (mark, n) =>
            let (info, code, next) := FencedCode.read src prefixes columns mark n i
            (s.add (.code (some info) code), next)
          | none =>
            match readDefinitions src prefixes (src.size - i + 1) s i with
            | (s, .inr next) => (s, next)
            | (s, .inl i) =>
              let (block, next) := Paragraph.read src prefixes i
              (s.add block, next)

/-- Reads the block of the line at `i`, and gives the position after it. -/
def readBlock (src : Source) (s : BlockState) (i : Nat) : BlockState × Nat :=
  let (missing, k) := LinePrefix.takeAll src s.prefixes (.atLine i)
  let s := s.popN (unmatched missing s.stack)
  match openContainers src (src.size - i + 1) s k with
  | (s, .emptyItem next) => (s, next)
  | (s, .text k) =>
    match src.blankLine? k.pos with
    | some next => (s.blankLine, next)
    | none => s.readLeaf src k

/-- Reads the blocks from `i` on. -/
def readFrom (src : Source) : (fuel : Nat) → BlockState → (i : Nat) → BlockState
  | 0, s, _ => s
  | fuel + 1, s, i =>
    if src.size ≤ i then s
    else
      let (s, next) := s.readBlock src i
      readFrom src fuel s next

end BlockState

/-- The block structure of a source: its blocks, and the definitions and footnotes in it. -/
structure Outline where
  blocks : List Block
  definitions : List LinkDefinition
  footnotes : List String
  deriving Inhabited

/-- The block structure of a source, with its definitions in their order. -/
def Outline.read (src : Source) : Outline :=
  let s := (BlockState.readFrom src (src.size + 1) {} 0).finish
  ⟨s.blocks.reverse, s.definitions.reverse, s.footnotes⟩

end MarkdownPreview.Markdown
