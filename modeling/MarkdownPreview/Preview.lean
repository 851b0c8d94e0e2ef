import MarkdownPreview.Document.Builder
import MarkdownPreview.ListBoundary
import MarkdownPreview.Markdown.Reader
import MarkdownPreview.Render.Github
import MarkdownPreview.Render.Transcript
import MarkdownPreview.Text.Utf8

/-!
Previews: markdown bytes to an HTML fragment.
-/

namespace MarkdownPreview

/-- What previews are made with: a reader of markdown and a highlighter of code. -/
structure Toolkit where
  events : String → List Event
  highlighter : Highlight.Highlighter

/-- The reader and the highlighter of this library. -/
def Toolkit.standard : Toolkit := ⟨Markdown.events, Highlight.highlighter⟩

namespace Preview

/-- The theme of diagrams where none is chosen. -/
def defaultTheme : String := "auto"

/-- The output stream failed. -/
structure WriteFailure where
  cause : String
  deriving DecidableEq, Repr

def WriteFailure.message (e : WriteFailure) : String := "failed to write HTML: " ++ e.cause

/-- The document of markdown bytes. Faulty bytes are replaced, and lists are set off from the text
before them. -/
def document (kit : Toolkit) (markdown : List UInt8) : Document :=
  .ofEvents (kit.events (ListBoundary.normalize (Text.decodeLossy markdown)))

variable {σ : Type}

/-- Writes a document with the GitHub hook. -/
def renderDocument (highlighter : Highlight.Highlighter) (stream : Stream σ) (theme : String)
    (doc : Document) (s : σ) : Option WriteFailure × σ :=
  match Render.render stream (Render.Github.hookWith highlighter stream theme) doc {} s with
  | (failure, _, s) => (failure.map WriteFailure.mk, s)

/-- Writes the HTML of markdown bytes. Only failures of the stream are reported. -/
def renderTo (kit : Toolkit) (stream : Stream σ) (theme : String) (markdown : List UInt8) (s : σ) :
    Option WriteFailure × σ :=
  renderDocument kit.highlighter stream theme (document kit markdown) s

/-- The HTML of markdown bytes. -/
def toHtml (kit : Toolkit) (theme : String) (markdown : List UInt8) : String :=
  (renderTo kit Stream.buffer theme markdown "").2

/-- The visits that markdown bytes lead to, with what is written at each. -/
def transcript (kit : Toolkit) (theme : String) (markdown : List UInt8) : List Render.Entry :=
  Render.Script.transcript (Render.Github.output kit.highlighter theme) (document kit markdown) {}

end Preview

end MarkdownPreview
