import MarkdownPreview.Command.Request
import MarkdownPreview.Config.Load
import MarkdownPreview.Page
import MarkdownPreview.Preview

/-!
Running a command line. The configuration is loaded first, then the input is read, and only then is
the output opened, which empties the file that it goes to. A fragment is written as it is rendered,
to the output itself; a page is made around a fragment that is rendered before it.
-/

namespace MarkdownPreview.Command

/-- Why a request fails. -/
inductive Failure
  | config (cause : Config.Error)
  | input (cause : FileError)
  | output (cause : FileError)
  | rendering (cause : Preview.WriteFailure)
  | styles (cause : Highlight.StyleError)
  | writing (cause : String)
  deriving DecidableEq, Repr

def Failure.message : Failure → String
  | config cause => cause.message
  | input cause => cause.message
  | output cause => cause.message
  | rendering cause => cause.message
  | styles cause => cause.message
  | writing cause => cause

/-- What a command line that asks for nothing to be rendered is answered. -/
structure Notice where
  code : UInt32
  printed : String := ""
  report : Option String := none

/-- What commands are run with: the parts of a preview, a reader of command lines, a decoder of
configurations, stylesheets, and the line by which a log shows that a configuration file is used, if
it does. -/
structure Program extends Toolkit where
  readArguments : List String → Except Notice Request
  decode : Config.Decoder
  sheets : Highlight.Sheets
  logLine : (verbose : Bool) → (path : String) → Option String

/-- The file that a request names as input. A dash means the standard input. -/
def Request.inputFile? (r : Request) : Option String :=
  r.input.filter (Path.components · != Path.components "-")

/-- The title of a page whose input has no file name. -/
def untitled : String := "stdin"

/-- The title of the page for an input. -/
def pageTitle (config : Config) (inputFile : Option String) : String :=
  config.title.getD ((inputFile.bind Path.fileName?).getD untitled)

/-- The page for a markdown input. Its fragment comes as bytes. -/
def Program.page (program : Program) (config : Config) (inputFile : Option String)
    (markdown : List UInt8) : Except Highlight.StyleError String :=
  let fragment := bytesOf (Preview.toHtml program.toToolkit config.theme.name markdown)
  Page.render program.sheets (pageTitle config inputFile) config.theme (Text.decodeLossy fragment)

variable {m : Type → Type} [Monad m]

/-- An action on a writer as a step of a request. -/
def attempt (failure : String → Failure) (action : m (Option String)) : ExceptT Failure m Unit :=
  ExceptT.mk do
    match ← action with
    | none => return .ok ()
    | some message => return .error (failure message)

def readMarkdown (host : Host m) : Option String → m (Except FileError (List UInt8))
  | some path => host.readFile path
  | none => host.readInput

/-- The writer to the file that a request names, or to the standard output. -/
def openOutput (host : Host m) : Option String → m (Except FileError (Writer m))
  | some path => host.createFile path
  | none => return .ok (← host.printer)

/-- Writes the HTML of a markdown input, to the last byte: a page at once, or a fragment visit by
visit. -/
def writeHtml (program : Program) (writer : Writer m) (config : Config)
    (inputFile : Option String) (markdown : List UInt8) : ExceptT Failure m Unit := do
  if config.standalone then
    let page ← ExceptT.mk (pure ((program.page config inputFile markdown).mapError .styles))
    attempt .writing (writer.put page)
  else
    attempt (.rendering ⟨·⟩) <|
      writer.perform (Preview.transcript program.toToolkit config.theme.name markdown)
  attempt .writing writer.flush

/-- Notes in the log which configuration file is used. -/
def logConfig (program : Program) (host : Host m) (verbose : Bool) (config : Config) : m Unit :=
  match config.path.bind (program.logLine verbose) with
  | some line => host.report (.note line)
  | none => return ()

/-- Reports the file that was written. -/
def reportOutput (host : Host m) : Option String → m Unit
  | some path => host.report (.success ("Rendered HTML to " ++ path))
  | none => return ()

/-- Writes the HTML of a markdown input to where a request wants it. What the writer still keeps
back after a failure goes out with it, or is lost. -/
def deliver (program : Program) (host : Host m) (r : Request) (config : Config)
    (markdown : List UInt8) : ExceptT Failure m Unit := do
  let writer ← ExceptT.mk (Except.mapError .output <$> openOutput host r.output)
  let result ← ExceptT.lift (writeHtml program writer config r.inputFile? markdown).run
  let _ ← ExceptT.lift writer.flush
  ExceptT.mk (pure result)
  ExceptT.lift (reportOutput host r.output)

/-- Carries out a request. -/
def execute (program : Program) (host : Host m) (r : Request) : ExceptT Failure m Unit := do
  let config ← ExceptT.mk
    (Except.mapError .config <$> Config.load host program.decode r.config r.settings)
  ExceptT.lift (logConfig program host r.verbose config)
  let markdown ← ExceptT.mk (Except.mapError .input <$> readMarkdown host r.inputFile?)
  deliver program host r config markdown

/-- Gives an answer that needs no rendering. -/
def answer (host : Host m) (notice : Notice) : m Unit := do
  let writer ← host.printer
  let _ ← writer.put notice.printed
  let _ ← writer.flush
  match notice.report with
  | some text => host.report (.note text)
  | none => return ()

/-- Runs a command line and gives the exit code: 1 if a request fails. -/
def run (program : Program) (host : Host m) (arguments : List String) : m UInt32 := do
  match program.readArguments arguments with
  | .error notice => answer host notice; return notice.code
  | .ok r =>
    match ← (execute program host r).run with
    | .ok () => return 0
    | .error e => host.report (.problem ("Error: " ++ e.message)); return 1

end MarkdownPreview.Command
