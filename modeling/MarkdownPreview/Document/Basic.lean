import MarkdownPreview.Event

/-!
Documents. A document keeps its nodes in one array; a node knows its parent and its children by
their positions in it. The root is at position 0 and has no parent.
-/

namespace MarkdownPreview

/-- What a node of the document is. A tight paragraph holds the inline content that stands directly
in a list item, and is written without tags. A group is written as its children are. -/
inductive Element
  | document
  | paragraph (tight : Bool)
  | heading (level : Nat) (id : Option String) (classes : List String)
  | blockQuote
  | codeBlock (info : Option String) (literal : String)
  | htmlBlock (literal : String)
  | list (start : Option Nat)
  | item
  | table (alignments : List Alignment)
  | tableHead
  | tableRow
  | tableCell
  | emphasis
  | strong
  | strikethrough
  | group
  | link (url title : String)
  | image (url title : String)
  | footnoteDefinition (label : String)
  | footnoteReference (label : String)
  | metadata
  | text (literal : String)
  | code (literal : String)
  | html (literal : String)
  | math (display : Bool) (literal : String)
  | softBreak
  | hardBreak
  | rule
  deriving DecidableEq, Repr, Inhabited

/-- The kinds of node that a hook tells apart. -/
inductive Kind
  | blockQuote | paragraph | text | item | codeBlock | other
  deriving DecidableEq, Repr, Inhabited

namespace Element

def kind : Element → Kind
  | blockQuote => .blockQuote
  | paragraph _ => .paragraph
  | text _ => .text
  | item => .item
  | codeBlock .. => .codeBlock
  | _ => .other

/-- Elements that are visited twice, before and after their children. -/
def isContainer : Element → Bool
  | codeBlock .. | htmlBlock _ | footnoteReference _ | metadata | text _ | code _ | html _
  | math .. | softBreak | hardBreak | rule => false
  | _ => true

def isBlock : Element → Bool
  | paragraph _ | heading .. | blockQuote | codeBlock .. | htmlBlock _ | list _ | item | table _
  | tableHead | tableRow | tableCell | footnoteDefinition _ | metadata | rule => true
  | _ => false

/-- The content of texts and code blocks. -/
def literal? : Element → Option String
  | text literal => some literal
  | codeBlock _ literal => some literal
  | _ => none

end Element

structure Node where
  element : Element
  parent : Option Nat
  children : Array Nat
  deriving DecidableEq, Repr, Inhabited

structure Document where
  nodes : Array Node
  deriving DecidableEq, Repr, Inhabited

namespace Document

/-- A document that has nothing but its root. -/
def empty : Document := ⟨#[⟨.document, none, #[]⟩]⟩

def size (doc : Document) : Nat := doc.nodes.size

def node (doc : Document) (i : Nat) : Node := doc.nodes.getD i ⟨.document, none, #[]⟩

def element (doc : Document) (i : Nat) : Element := (doc.node i).element

def parent? (doc : Document) (i : Nat) : Option Nat := (doc.node i).parent

def children (doc : Document) (i : Nat) : List Nat := (doc.node i).children.toList

def firstChild? (doc : Document) (i : Nat) : Option Nat := (doc.node i).children[0]?

def lastChild? (doc : Document) (i : Nat) : Option Nat := (doc.node i).children.back?

/-- The position of a node among its parent's children; 0 for the root. -/
def indexInParent (doc : Document) (i : Nat) : Nat :=
  match doc.parent? i with
  | none => 0
  | some p => ((doc.children p).idxOf? i).getD 0

/-- Adds a node as the last child of `parent`. Its position is the former size. -/
def append (doc : Document) (parent : Nat) (element : Element) : Document :=
  let i := doc.size
  ⟨(doc.nodes.push ⟨element, some parent, #[]⟩).modify parent fun n =>
    { n with children := n.children.push i }⟩

/-- Changes what a node is. -/
def modifyElement (doc : Document) (i : Nat) (f : Element → Element) : Document :=
  ⟨doc.nodes.modify i fun n => { n with element := f n.element }⟩

/-- The text of a node and all below it, to a given depth. -/
def plainTextTo (doc : Document) : Nat → Nat → String
  | 0, _ => ""
  | depth + 1, i =>
    match doc.element i with
    | .text literal | .code literal => literal
    | .softBreak | .hardBreak => " "
    | _ => String.join ((doc.children i).map (doc.plainTextTo depth))

/-- The text of a node and all below it. A chain of nodes is never longer than the document. -/
def plainText (doc : Document) (i : Nat) : String := doc.plainTextTo doc.size i

end Document

end MarkdownPreview
