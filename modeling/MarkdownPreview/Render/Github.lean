import MarkdownPreview.Alert
import MarkdownPreview.Emoji.Substitute
import MarkdownPreview.Highlight.Code
import MarkdownPreview.Render.Walk
import MarkdownPreview.TaskMarker
import MarkdownPreview.Template.Fragment

/-!
The GitHub hook: alerts, task lists, emoji, diagrams and highlighted code. A handler gives the
pieces to write, or declines the visit. A failure to write them loses the rest of the pieces, and
the visit counts as taken, so that one bad node never ends a document.
-/

namespace MarkdownPreview.Render.Github

open Html (escape)
open Highlight (Highlighter)

/-- What a handler has to write for a visit, and whether the children follow; nothing if it
declines. -/
abbrev Output := Option (List String × Descent)

/-- The alert that a paragraph opens: its parent is a block quote and its first child starts with
a token. -/
def paragraphAlert? (doc : Document) (i : Nat) : Option Alert :=
  if (doc.element i).kind = .paragraph ∧
      (doc.parent? i).any (fun p => (doc.element p).kind = .blockQuote) then
    (doc.firstChild? i).bind fun child =>
      (doc.element child).literal?.bind fun literal => (Alert.parse? literal).map (·.1)
  else none

/-- The literal that leads a list item: that of the first child of its first paragraph. -/
def leadingLiteral? (doc : Document) (i : Nat) : Option String :=
  (doc.firstChild? i).bind fun paragraph =>
    if (doc.element paragraph).kind = .paragraph then
      (doc.firstChild? paragraph).bind fun child => (doc.element child).literal?
    else none

/-- The paragraph whose first child a node is. -/
def leadingParagraph? (doc : Document) (i : Nat) : Option Nat :=
  match doc.parent? i with
  | some parent =>
    if (doc.element parent).kind = .paragraph ∧ doc.indexInParent i = 0 then some parent else none
  | none => none

/-- The information string of a diagram. -/
def diagramLanguage : String := "mermaid"

/-- A template that cannot be rendered leaves nothing to write. -/
def fragmentOutput (rendered : Except Template.MissingTemplate String) (d : Descent) :
    List String × Descent :=
  match rendered with
  | .ok html => ([html], d)
  | .error _ => ([], .children)

def codeOpening (language : Option String) : String :=
  match language with
  | some language =>
    "<pre class=\"highlight\"><code class=\"language-" ++ escape language ++ "\">"
  | none => "<pre class=\"highlight\"><code>"

/-- A block of highlighted code. Code that cannot be highlighted leaves nothing to write. -/
def highlightedBlock (highlighter : Highlighter) (info : Option String) (literal : String) :
    List String × Descent :=
  let language := language? info
  match highlighter language literal with
  | some code => ([codeOpening language, code, "</code></pre>\n"], .children)
  | none => ([], .children)

theorem highlightedBlock_of_some {highlighter : Highlighter} {info : Option String}
    {literal code : String} (h : highlighter (language? info) literal = some code) :
    highlightedBlock highlighter info literal =
      ([codeOpening (language? info), code, "</code></pre>\n"], .children) := by
  simp only [highlightedBlock, h]

theorem highlightedBlock_of_none {highlighter : Highlighter} {info : Option String}
    {literal : String} (h : highlighter (language? info) literal = none) :
    highlightedBlock highlighter info literal = ([], .children) := by
  simp only [highlightedBlock, h]

/-- A diagram, or else highlighted code. -/
def codeBlock (highlighter : Highlighter) (theme : String) (info : Option String)
    (literal : String) : List String × Descent :=
  if info = some diagramLanguage then
    fragmentOutput (Template.renderDiagram literal theme) .skip
  else highlightedBlock highlighter info literal

/-- An alert's block quote is written without tags of its own. -/
def blockQuote (doc : Document) (i : Nat) : Output :=
  if ((doc.firstChild? i).bind (paragraphAlert? doc)).isSome then some ([], .children) else none

def paragraph (doc : Document) (i : Nat) (entering : Bool) : Output :=
  (paragraphAlert? doc i).map fun alert =>
    if entering then fragmentOutput (Template.renderAlert alert) .children
    else ([Alert.closing], .children)

/-- The text of a node as it is written in running text. -/
def richText (literal : String) : String := Emoji.substitute (escape literal)

/-- The pieces for a text that opens a paragraph: an alert's token is dropped, a task marker
becomes a checkbox. -/
def leadingText (doc : Document) (paragraph : Nat) (content : String) : List String :=
  match (doc.parent? paragraph).map fun p => (doc.element p).kind with
  | some .blockQuote =>
    match Alert.parse? content with
    | some (_, rest) => [rest]
    | none => [content]
  | some .item =>
    if doc.indexInParent paragraph = 0 then
      match TaskMarker.parse? content with
      | some (checked, rest) => [TaskMarker.checkbox checked, rest]
      | none => [content]
    else [content]
  | _ => [content]

def text (doc : Document) (i : Nat) (literal : String) : List String :=
  let content := richText literal
  match leadingParagraph? doc i with
  | some paragraph => leadingText doc paragraph content
  | none => [content]

def item (doc : Document) (i : Nat) (entering : Bool) : Output :=
  ((leadingLiteral? doc i).bind TaskMarker.parse?).map fun _ =>
    ([if entering then TaskMarker.itemOpening else "</li>\n"], .children)

/-- What the hook writes for a visit, if it takes it. -/
def output (highlighter : Highlighter) (theme : String) (doc : Document) (i : Nat)
    (entering : Bool) : Output :=
  match doc.element i with
  | .codeBlock info literal => some (codeBlock highlighter theme info literal)
  | .blockQuote => blockQuote doc i
  | .paragraph _ => paragraph doc i entering
  | .text literal => some (text doc i literal, .children)
  | .item => item doc i entering
  | _ => none

/-- The hook for a highlighter, a stream and a theme. -/
def hookWith {σ : Type} (highlighter : Highlighter) (stream : Stream σ) (theme : String) :
    Hook σ := fun doc i entering s =>
  match output highlighter theme doc i entering with
  | none => (.declined, s)
  | some (pieces, descent) =>
    match stream.putAll pieces s with
    | (none, s) => (⟨true, descent⟩, s)
    | (some _, s) => (.handled, s)

end MarkdownPreview.Render.Github
