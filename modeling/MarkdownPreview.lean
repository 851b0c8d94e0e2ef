import MarkdownPreview.Main
import MarkdownPreview.Stream.Channel
import MarkdownPreview.Proofs.Document.Spine
import MarkdownPreview.Proofs.Document.Simulation
import MarkdownPreview.Proofs.Document.Links
import MarkdownPreview.Proofs.Document.Preorder
import MarkdownPreview.Proofs.Document.Invariant
import MarkdownPreview.Proofs.Document.Normal
import MarkdownPreview.Proofs.Document.Nesting
import MarkdownPreview.Proofs.Document.Shape
import MarkdownPreview.Proofs.Document.Contents
import MarkdownPreview.Proofs.Render.Recursion
import MarkdownPreview.Proofs.Html.Fragments
import MarkdownPreview.Proofs.Render.Balance
import MarkdownPreview.Proofs.Render.HeadingIds
import MarkdownPreview.Proofs.Render.BrokenChannel
import MarkdownPreview.Proofs.Render.Recovery
import MarkdownPreview.Proofs.Render.Alerts
import MarkdownPreview.Proofs.Render.TaskLists
import MarkdownPreview.Proofs.ListBoundary.Stability
import MarkdownPreview.Proofs.Render.Ordinary
import MarkdownPreview.Proofs.Html.Items
import MarkdownPreview.Proofs.Html.Escaped
import MarkdownPreview.Proofs.Render.Content
import MarkdownPreview.Proofs.Html.Reading
import MarkdownPreview.Proofs.Document.Sequence
import MarkdownPreview.Proofs.Render.Sequence
import MarkdownPreview.Proofs.ListBoundary.Fences
import MarkdownPreview.Proofs.Command.Failures
import MarkdownPreview.Proofs.Command.Outputs
import MarkdownPreview.Proofs.Emoji.Rewriting
import MarkdownPreview.Proofs.ListBoundary.Seams
import MarkdownPreview.Proofs.ListStart.Grammar
import MarkdownPreview.Proofs.Render.Identifiers
import MarkdownPreview.Proofs.Slug.Words
import MarkdownPreview.Proofs.Highlight.Lookup
import MarkdownPreview.Proofs.Render.CodeBlocks
import MarkdownPreview.Proofs.Render.Themes
import MarkdownPreview.Proofs.Page.Parts
