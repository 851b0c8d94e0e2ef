import MarkdownPreview.Config.Basic
import MarkdownPreview.Files.Host
import MarkdownPreview.Text.Utf8

/-!
Finding and loading configurations. A path that is given must lead to a file. Otherwise the
nearest configuration file counts, in the working directory or in a directory that it is in; and
if there is none, the defaults. What the text of a file says is for a decoder to tell.
-/

namespace MarkdownPreview.Config

def fileName : String := "grip.toml"

variable {m : Type → Type} [Monad m]

/-- The path of the configuration file of a directory. -/
def pathIn (directory : List String) : String := Path.absolute (directory ++ [fileName])

/-- Looks for a configuration file in a directory, then in the one that it is in, and so on up to
the root. Anything of its name counts, also a directory. The names that lead to the directory are
given from the last one back. -/
def discoverUp (isPresent : String → m Bool) (names : List String) : m (Option String) := do
  let candidate := pathIn names.reverse
  if ← isPresent candidate then return some candidate
  match names with
  | [] => return none
  | _ :: up => discoverUp isPresent up

/-- The configuration file that counts in a directory. -/
def discover (isPresent : String → m Bool) (directory : List String) : m (Option String) :=
  discoverUp isPresent directory.reverse

/-- Tells the settings that a text gives, or why it gives none. -/
abbrev Decoder := String → Except String Settings

/-- The configuration that the bytes of a file describe. -/
def ofBytes (decode : Decoder) (path : String) (content : List UInt8) : Except Error Config :=
  match Text.decodeStrict? content with
  | none => .error (.unreadable .notUtf8)
  | some text =>
    match decode text with
    | .error cause => .error (.malformed cause)
    | .ok given => { override {} given with path := some path }.validate

def loadFile (host : Host m) (decode : Decoder) (path : String) : m (Except Error Config) := do
  match ← host.readFile path with
  | .error e => return .error (.unreadable e)
  | .ok content => return ofBytes decode path content

/-- The configuration file that counts in the working directory, if that is still there. -/
def discoverHere (host : Host m) : m (Option String) := do
  match ← host.workingDirectory with
  | some directory => discover host.isPresent directory
  | none => return none

/-- The configuration before any settings. -/
def loadBase (host : Host m) (decode : Decoder) (path : Option String) :
    m (Except Error Config) := do
  match path with
  | some path =>
    if ← host.isPresent path then loadFile host decode path else return .error (.notFound path)
  | none =>
    match ← discoverHere host with
    | some path => loadFile host decode path
    | none => return .ok {}

/-- The configuration of a run. -/
def load (host : Host m) (decode : Decoder) (path : Option String) (settings : Option Settings) :
    m (Except Error Config) := do
  match ← loadBase host decode path, settings with
  | .ok config, some settings => return (config.override settings).validate
  | result, _ => return result

end MarkdownPreview.Config
