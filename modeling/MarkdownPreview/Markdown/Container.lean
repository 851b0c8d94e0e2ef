import MarkdownPreview.Markdown.Block
import MarkdownPreview.Markdown.LinkDefinition

/-!
The containers that are open while blocks are read, the innermost first, with the blocks that each
holds so far. Blank lines decide whether a list is loose, and whether an item can be empty.
-/

namespace MarkdownPreview.Markdown

inductive Container
  | quote
  | list (tight : Bool) (mark : Char) (number : Nat)
  | item (indent : Nat)
  | footnote (label : String)
  deriving DecidableEq, Repr, Inhabited

namespace Container

/-- What a container asks of each of its lines. -/
def linePrefix? : Container → Option LinePrefix
  | quote => some .quote
  | list .. => none
  | item indent => some (.indent indent)
  | footnote _ => some (.indent 4)

/-- The block that a container with its children becomes. -/
def toBlock (children : List Block) : Container → Block
  | quote => .quote children
  | list tight mark number =>
    .list (if ListMark.isBullet mark then none else some number)
      (if tight then children.map Block.tightItem else children)
  | item _ => .item children
  | footnote label => .footnote label children

def isList : Container → Bool
  | list .. => true
  | _ => false

def isTightList : Container → Bool
  | list tight .. => tight
  | _ => false

def isItem : Container → Bool
  | item _ => true
  | _ => false

def isFootnote : Container → Bool
  | footnote _ => true
  | _ => false

/-- Blank lines between its items make a list loose. -/
def loosened : Container → Container
  | list _ mark number => list false mark number
  | c => c

end Container

/-- An open container and its children, the last one first. -/
structure OpenContainer where
  container : Container
  children : List Block
  deriving Inhabited

/-- The state between two blocks: the open containers, the blocks that are not in any, the
definitions and footnotes that were met, whether an item was opened with a blank line, and whether
the line before was blank. -/
structure BlockState where
  stack : List OpenContainer := []
  blocks : List Block := []
  definitions : List LinkDefinition := []
  footnotes : List String := []
  itemOpened : Bool := false
  afterBlank : Bool := false
  deriving Inhabited

namespace BlockState

/-- The prefixes that the open containers ask for. -/
def prefixes (s : BlockState) : List LinePrefix :=
  s.stack.reverse.filterMap (·.container.linePrefix?)

def top? (s : BlockState) : Option Container := s.stack.head?.map (·.container)

def add (s : BlockState) (b : Block) : BlockState :=
  match s.stack with
  | [] => { s with blocks := b :: s.blocks }
  | c :: rest => { s with stack := { c with children := b :: c.children } :: rest }

def push (s : BlockState) (c : Container) : BlockState :=
  { s with stack := ⟨c, []⟩ :: s.stack }

/-- Closes the innermost container. -/
def pop (s : BlockState) : BlockState :=
  match s.stack with
  | [] => s
  | c :: rest =>
    { s with
      stack := rest
      itemOpened := s.itemOpened && !c.container.isTightList }.add
      (c.container.toBlock c.children.reverse)

def popN (s : BlockState) (n : Nat) : BlockState := n.repeat pop s

/-- The number of innermost containers to close, when the prefixes of the innermost `missing` do
not stand in the line. A list is open as long as what holds it. -/
def unmatched (missing : Nat) : List OpenContainer → Nat
  | [] => 0
  | c :: rest =>
    match missing, c.container.linePrefix? with
    | 0, _ => 0
    | n + 1, some _ => unmatched n rest + 1
    | n + 1, none => unmatched (n + 1) rest + 1

/-- Changes the innermost container. -/
def modifyTop (s : BlockState) (f : Container → Container) : BlockState :=
  match s.stack with
  | [] => s
  | c :: rest => { s with stack := { c with container := f c.container } :: rest }

/-- An item that has nothing but two blank lines is closed. -/
def closeEmptyItem (s : BlockState) : BlockState :=
  let s' := if s.itemOpened && s.afterBlank && s.top?.any (·.isItem) then s.pop else s
  { s' with itemOpened := false }

/-- Closes a list before another block. A blank line before the block makes the list loose in
whose item the block stands. -/
def closeList (s : BlockState) : BlockState :=
  let s := s.closeEmptyItem
  let s := if s.top?.any (·.isList) then s.pop else s
  if s.afterBlank then
    match s.stack with
    | c :: list :: rest =>
      { s with
        stack := c :: { list with container := list.container.loosened } :: rest
        afterBlank := false }
    | _ => { s with afterBlank := false }
  else s

/-- Goes on with the open list, or opens another. -/
def openList (s : BlockState) (m : ListMark) : BlockState :=
  let s := s.closeEmptyItem
  let continues := match s.top? with
    | some (.list _ mark _) => mark == m.mark
    | _ => false
  if continues then
    if s.afterBlank then { s.modifyTop .loosened with afterBlank := false } else s
  else
    { (if s.stack.isEmpty then s else s.closeList).push (.list true m.mark m.number) with
      afterBlank := false }

/-- A blank line. In a block quote it has no effect on lists; an item that was opened with a blank
line can hold nothing after a second one. -/
def blankLine (s : BlockState) : BlockState :=
  match s.top? with
  | some .quote => s
  | some (.item _) =>
    { (if s.itemOpened then s.modifyTop fun _ => .item 0 else s) with afterBlank := true }
  | _ => { s with afterBlank := true }

/-- Closes all containers. -/
def finish (s : BlockState) : BlockState := s.popN s.stack.length

end BlockState

end MarkdownPreview.Markdown
