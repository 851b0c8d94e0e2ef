import MarkdownPreview.Command.Arguments
import MarkdownPreview.Command.Help
import MarkdownPreview.Command.Run
import MarkdownPreview.Config.Decode

/-!
The program made of the parts of this library.
-/

namespace MarkdownPreview.Command

/-- A command line that is not understood gives exit code 2. -/
def readRequest (arguments : List String) : Except Notice Request :=
  match readArguments arguments with
  | .error e => .error { code := 2, report := some ("error: " ++ e.message) }
  | .ok .help => .error { code := 0, printed := helpText }
  | .ok .renderHelp => .error { code := 0, printed := renderHelpText }
  | .ok .version => .error { code := 0, printed := versionText }
  | .ok (.render r) => .ok r

/-- The configuration file is logged on request. -/
def Program.standard : Program where
  toToolkit := Toolkit.standard
  readArguments := readRequest
  decode := Config.decode
  sheets := Highlight.Sheets.standard
  logLine verbose path := if verbose then some ("Loaded configuration path=" ++ path) else none

end MarkdownPreview.Command
