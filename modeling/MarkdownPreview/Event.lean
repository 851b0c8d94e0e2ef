/-!
Events: a document as a reader of markdown reports it, in order. Elements are reported by a start
and an end event, with the events of their content between them.
-/

namespace MarkdownPreview

/-- Alignment of a table column. -/
inductive Alignment
  | none | left | center | right
  deriving DecidableEq, Repr, Inhabited

/-- An element that is opened, with its attributes. -/
inductive Tag
  | paragraph
  | heading (level : Nat) (id : Option String) (classes : List String)
  | blockQuote
  | fencedCode (info : String)
  | indentedCode
  | htmlBlock
  | list (start : Option Nat)
  | item
  | footnoteDefinition (label : String)
  | table (alignments : List Alignment)
  | tableHead
  | tableRow
  | tableCell
  | emphasis
  | strong
  | strikethrough
  | superscript
  | subscript
  | definitionList
  | definitionTitle
  | definitionBody
  | link (url title : String)
  | image (url title : String)
  | metadata
  deriving DecidableEq, Repr, Inhabited

/-- The name of a tag, as an end event gives it. -/
inductive TagName
  | paragraph | heading | blockQuote | codeBlock | htmlBlock | list | item | footnoteDefinition
  | table | tableHead | tableRow | tableCell | emphasis | strong | strikethrough | superscript
  | subscript | definitionList | definitionTitle | definitionBody | link | image | metadata
  deriving DecidableEq, Repr, Inhabited

def Tag.name : Tag → TagName
  | paragraph => .paragraph
  | heading .. => .heading
  | blockQuote => .blockQuote
  | fencedCode _ => .codeBlock
  | indentedCode => .codeBlock
  | htmlBlock => .htmlBlock
  | list _ => .list
  | item => .item
  | footnoteDefinition _ => .footnoteDefinition
  | table _ => .table
  | tableHead => .tableHead
  | tableRow => .tableRow
  | tableCell => .tableCell
  | emphasis => .emphasis
  | strong => .strong
  | strikethrough => .strikethrough
  | superscript => .superscript
  | subscript => .subscript
  | definitionList => .definitionList
  | definitionTitle => .definitionTitle
  | definitionBody => .definitionBody
  | link .. => .link
  | image .. => .image
  | metadata => .metadata

inductive Event
  | start (tag : Tag)
  | finish (name : TagName)
  | text (s : String)
  | code (s : String)
  | html (s : String)
  | inlineHtml (s : String)
  | math (display : Bool) (s : String)
  | footnoteReference (label : String)
  | softBreak
  | hardBreak
  | rule
  | taskMarker (checked : Bool)
  deriving DecidableEq, Repr, Inhabited

/-- The events of an element around those of its content. -/
def Tag.around (tag : Tag) (content : List Event) : List Event :=
  .start tag :: (content ++ [.finish tag.name])

end MarkdownPreview
