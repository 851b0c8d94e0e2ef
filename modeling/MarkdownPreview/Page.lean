import MarkdownPreview.Config.Theme
import MarkdownPreview.Highlight.Scheme
import MarkdownPreview.Template.Basic

/-!
Pages: a rendered fragment inside a complete HTML page, with the stylesheet of its theme.
-/

namespace MarkdownPreview.Page

open Highlight (ColorScheme Sheets StyleError braced)

/-- The highlighting styles of a theme. The automatic theme has both, the dark one for readers
who prefer it. -/
def highlightStyles (sheets : Sheets) : Theme → Except StyleError String
  | .light => ColorScheme.light.styles sheets
  | .dark => ColorScheme.dark.styles sheets
  | .auto => do
    let light ← ColorScheme.light.styles sheets
    let dark ← ColorScheme.dark.styles sheets
    return light ++ "\n@media (prefers-color-scheme: dark)" ++ braced dark

def beforeTheme : String :=
  "<!DOCTYPE html>\n" ++
  "<html lang=\"en\" data-theme=\""

def beforeTitle : String :=
  "\">\n" ++
  "<head>\n" ++
  "  <meta charset=\"utf-8\">\n" ++
  "  <meta name=\"viewport\" content=\"width=device-width, initial-scale=1\">\n" ++
  "  <title>"

def beforeStyles : String :=
  "</title>\n" ++
  "  <style>\n" ++
  "    body \x7b max-width: 980px; margin: 0 auto; padding: 45px; font-family: " ++
  "-apple-system, BlinkMacSystemFont, \"Segoe UI\", Helvetica, Arial, sans-serif; " ++
  "line-height: 1.5; \x7d\n" ++
  "    pre \x7b padding: 16px; overflow: auto; border-radius: 6px; \x7d\n" ++
  "    .markdown-alert \x7b padding: 0.5rem 1rem; margin-bottom: 16px; border-left: " ++
  "0.25em solid #d1d9e0; \x7d\n" ++
  "    .markdown-alert-title \x7b display: flex; align-items: center; gap: 0.5rem; " ++
  "font-weight: 500; \x7d\n" ++
  "    .markdown-alert-title svg \x7b fill: currentColor; \x7d\n" ++
  "    .markdown-alert-note \x7b border-left-color: #0969da; \x7d\n" ++
  "    .markdown-alert-note .markdown-alert-title \x7b color: #0969da; \x7d\n" ++
  "    .markdown-alert-tip \x7b border-left-color: #1a7f37; \x7d\n" ++
  "    .markdown-alert-tip .markdown-alert-title \x7b color: #1a7f37; \x7d\n" ++
  "    .markdown-alert-important \x7b border-left-color: #8250df; \x7d\n" ++
  "    .markdown-alert-important .markdown-alert-title \x7b color: #8250df; \x7d\n" ++
  "    .markdown-alert-warning \x7b border-left-color: #9a6700; \x7d\n" ++
  "    .markdown-alert-warning .markdown-alert-title \x7b color: #9a6700; \x7d\n" ++
  "    .markdown-alert-caution \x7b border-left-color: #d1242f; \x7d\n" ++
  "    .markdown-alert-caution .markdown-alert-title \x7b color: #d1242f; \x7d\n" ++
  "    .task-list-item \x7b list-style-type: none; \x7d\n" ++
  "    .task-list-item-checkbox \x7b margin: 0 0.2em 0.25em -1.4em; vertical-align: " ++
  "middle; \x7d\n" ++
  "    img.emoji \x7b vertical-align: middle; \x7d\n"

def beforeContent : String :=
  "\n" ++
  "  </style>\n" ++
  "</head>\n" ++
  "<body>\n" ++
  "<article class=\"markdown-body\">\n"

def afterContent : String :=
  "\n" ++
  "</article>\n" ++
  "</body>\n" ++
  "</html>"

/-- The page template. Styles and content are markup already. -/
def template : Template :=
  [.text beforeTheme, .slot "theme", .text beforeTitle, .slot "title", .text beforeStyles,
   .slot "highlight_css", .text beforeContent, .slot "content", .text afterContent]

/-- The page of its parts. -/
def fill (title : String) (theme : Theme) (styles content : String) : String :=
  template.fill
    [("title", .string title), ("theme", .string theme.name), ("highlight_css", .markup styles),
     ("content", .markup content)]

/-- A fragment in a page of a title and a theme. -/
def render (sheets : Sheets) (title : String) (theme : Theme) (content : String) :
    Except StyleError String := do
  let styles ← highlightStyles sheets theme
  return fill title theme styles content

end MarkdownPreview.Page
