/-!
What the program says about itself.
-/

namespace MarkdownPreview.Command

def versionText : String := "grip 0.1.0\n"

def helpText : String :=
  "GitHub-flavored markdown preview - CLI\n" ++
  "\n" ++
  "Usage: grip <COMMAND>\n" ++
  "\n" ++
  "Commands:\n" ++
  "  render  Render markdown to HTML\n" ++
  "  help    Print this message or the help of the given subcommand(s)\n" ++
  "\n" ++
  "Options:\n" ++
  "  -h, --help     Print help\n" ++
  "  -V, --version  Print version\n"

def renderHelpText : String :=
  "Render markdown to HTML\n" ++
  "\n" ++
  "Usage: grip render [OPTIONS] [INPUT]\n" ++
  "\n" ++
  "Arguments:\n" ++
  "  [INPUT]  Markdown file to render; `-` or nothing reads stdin\n" ++
  "\n" ++
  "Options:\n" ++
  "  -c, --config <CONFIG>  Path to configuration file (default: auto-discover grip.toml)\n" ++
  "  -t, --theme <THEME>    Color theme: light, dark or auto (overrides config)\n" ++
  "  -o, --output <OUTPUT>  Write HTML to this file instead of stdout\n" ++
  "      --standalone       Wrap the fragment in a complete HTML page\n" ++
  "      --title <TITLE>    Page title for standalone output (overrides config)\n" ++
  "  -v, --verbose          Enable verbose output\n" ++
  "  -h, --help             Print help\n"

end MarkdownPreview.Command
