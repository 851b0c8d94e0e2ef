import MarkdownPreview.Document.Basic
import MarkdownPreview.Text.WhiteSpace

/-!
Building a document from events. The builder keeps the elements that are open, the innermost one
first and the root last. Inline content that stands directly in a list item goes into a tight
paragraph, which is opened and closed without an event.
-/

namespace MarkdownPreview

/-- The information string of a code block; a blank one counts as none. -/
def codeInfo (info : String) : Option String :=
  match Text.trim info.toList with
  | [] => none
  | cs => some (String.ofList cs)

def Tag.element : Tag → Element
  | .paragraph => .paragraph false
  | .heading level id classes => .heading level id classes
  | .blockQuote => .blockQuote
  | .fencedCode info => .codeBlock (codeInfo info) ""
  | .indentedCode => .codeBlock none ""
  | .htmlBlock => .htmlBlock ""
  | .list start => .list start
  | .item => .item
  | .footnoteDefinition label => .footnoteDefinition label
  | .table alignments => .table alignments
  | .tableHead => .tableHead
  | .tableRow => .tableRow
  | .tableCell => .tableCell
  | .emphasis => .emphasis
  | .strong => .strong
  | .strikethrough => .strikethrough
  | .superscript | .subscript | .definitionList | .definitionTitle | .definitionBody => .group
  | .link url title => .link url title
  | .image url title => .image url title
  | .metadata => .metadata

structure Builder where
  doc : Document
  openNodes : List Nat
  deriving DecidableEq, Repr, Inhabited

namespace Builder

def new : Builder := ⟨.empty, [0]⟩

/-- The innermost open element. -/
def top (b : Builder) : Nat := b.openNodes.headD 0

def topElement (b : Builder) : Element := b.doc.element b.top

/-- Adds a leaf under the innermost open element. -/
def append (b : Builder) (e : Element) : Builder := { b with doc := b.doc.append b.top e }

/-- Adds an element under the innermost open one and opens it. -/
def opened (b : Builder) (e : Element) : Builder :=
  ⟨b.doc.append b.top e, b.doc.size :: b.openNodes⟩

/-- Closes the innermost open element. -/
def close (b : Builder) : Builder := { b with openNodes := b.openNodes.tail }

/-- Inline content directly in a list item needs a tight paragraph. -/
def openTight (b : Builder) : Builder :=
  if b.topElement = .item then b.opened (.paragraph true) else b

def closeTight (b : Builder) : Builder :=
  if b.topElement = .paragraph true then b.close else b

def start (b : Builder) (tag : Tag) : Builder :=
  let e := tag.element
  (if e.isBlock then b.closeTight else b.openTight).opened e

/-- Closes an element. The root stays open, whatever ends. -/
def finish (b : Builder) (name : TagName) : Builder :=
  let b := if name = .paragraph then b else b.closeTight
  if 1 < b.openNodes.length then b.close else b

def inlineLeaf (b : Builder) (e : Element) : Builder := b.openTight.append e

/-- Appends to the literal of a text, a code block or a block of HTML. -/
def appendLiteral (s : String) : Element → Element
  | .text literal => .text (literal ++ s)
  | .codeBlock info literal => .codeBlock info (literal ++ s)
  | .htmlBlock literal => .htmlBlock (literal ++ s)
  | e => e

/-- Text that comes right after text goes into the same node. -/
def inlineText (b : Builder) (s : String) : Builder :=
  let b := b.openTight
  match b.doc.lastChild? b.top with
  | some last =>
    match b.doc.element last with
    | .text _ => { b with doc := b.doc.modifyElement last (appendLiteral s) }
    | _ => b.append (.text s)
  | none => b.append (.text s)

/-- Text goes into the literal of code and HTML blocks and is dropped in metadata. -/
def text (b : Builder) (s : String) : Builder :=
  match b.topElement with
  | .codeBlock .. | .htmlBlock _ => { b with doc := b.doc.modifyElement b.top (appendLiteral s) }
  | .metadata => b
  | _ => b.inlineText s

def blockHtml (b : Builder) (s : String) : Builder :=
  match b.topElement with
  | .htmlBlock _ => { b with doc := b.doc.modifyElement b.top (appendLiteral s) }
  | _ => b.inlineLeaf (.html s)

/-- The text that stands for a task marker. -/
def taskText (checked : Bool) : String := if checked then "[x]" else "[ ]"

def push (b : Builder) : Event → Builder
  | .start tag => b.start tag
  | .finish name => b.finish name
  | .text s => b.text s
  | .code s => b.inlineLeaf (.code s)
  | .html s => b.blockHtml s
  | .inlineHtml s => b.inlineLeaf (.html s)
  | .math display s => b.inlineLeaf (.math display s)
  | .footnoteReference label => b.inlineLeaf (.footnoteReference label)
  | .softBreak => b.inlineLeaf .softBreak
  | .hardBreak => b.inlineLeaf .hardBreak
  | .rule => b.closeTight.append .rule
  | .taskMarker checked => b.text (taskText checked)

end Builder

/-- The document that a list of events describes. -/
def Document.ofEvents (events : List Event) : Document :=
  (events.foldl Builder.push .new).doc

end MarkdownPreview
