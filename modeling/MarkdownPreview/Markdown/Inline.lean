import MarkdownPreview.Event
import MarkdownPreview.Markdown.LinkTarget

/-!
Inline content, and the events that report it.
-/

namespace MarkdownPreview.Markdown

inductive Inline
  | text (s : String)
  | code (s : String)
  | html (s : String)
  | math (display : Bool) (s : String)
  | footnote (label : String)
  | softBreak
  | hardBreak
  | emphasis (children : List Inline)
  | strong (children : List Inline)
  | strikethrough (children : List Inline)
  | link (target : LinkTarget) (children : List Inline)
  | image (target : LinkTarget) (children : List Inline)
  deriving Inhabited

mutual

def Inline.events : Inline → List Event
  | .text s => [.text s]
  | .code s => [.code s]
  | .html s => [.inlineHtml s]
  | .math display s => [.math display s]
  | .footnote label => [.footnoteReference label]
  | .softBreak => [.softBreak]
  | .hardBreak => [.hardBreak]
  | .emphasis children => Tag.around .emphasis (Inline.eventsOf children)
  | .strong children => Tag.around .strong (Inline.eventsOf children)
  | .strikethrough children => Tag.around .strikethrough (Inline.eventsOf children)
  | .link target children => Tag.around (.link target.url target.title) (Inline.eventsOf children)
  | .image target children => Tag.around (.image target.url target.title) (Inline.eventsOf children)

def Inline.eventsOf : List Inline → List Event
  | [] => []
  | x :: xs => Inline.events x ++ Inline.eventsOf xs

end

end MarkdownPreview.Markdown
