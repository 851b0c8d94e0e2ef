import MarkdownPreview.Event
import MarkdownPreview.Markdown.Token

/-!
Blocks: the block structure of a document, with the text of the leaves as tokens.
-/

namespace MarkdownPreview.Markdown

/-- A block. A tight paragraph stands in an item of a list without blank lines between its
items. -/
inductive Block
  | paragraph (tight : Bool) (content : Content)
  | heading (level : Nat) (id : Option String) (classes : List String) (content : Content)
  | quote (children : List Block)
  | code (info : Option String) (literal : String)
  | html (literal : String)
  | list (start : Option Nat) (items : List Block)
  | item (children : List Block)
  | footnote (label : String) (children : List Block)
  | table (alignments : List Alignment) (head : List Content) (rows : List (List Content))
  | rule
  deriving Inhabited

/-- A paragraph without its own lines around it. -/
def Block.tightened : Block → Block
  | paragraph _ content => paragraph true content
  | b => b

/-- An item whose paragraphs are tight. -/
def Block.tightItem : Block → Block
  | item children => item (children.map tightened)
  | b => b

end MarkdownPreview.Markdown
