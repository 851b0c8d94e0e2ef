import MarkdownPreview.Command.Standard

/-!
The program: command lines on the machine that it runs on.
-/

namespace MarkdownPreview

/-- Why a file cannot be used. The number of an error may come with either sign. -/
def FileError.ofIO (e : IO.Error) : FileError :=
  match e with
  | .noFileOrDirectory .. => .notFound
  | .inappropriateType _ code _ =>
    if code = 20 ∨ code + 20 = 0 then .notDirectory else .isDirectory
  | e => .other (toString e)

/-- What an action gives, or why a file cannot be used. -/
def tryFile {α : Type} (action : IO α) : IO (Except FileError α) := do
  match ← action.toBaseIO with
  | .ok a => return .ok a
  | .error e => return .error (.ofIO e)

/-- The message of an action that fails. -/
def tryWrite (action : IO Unit) : IO (Option String) := do
  match ← tryFile action with
  | .ok () => return none
  | .error e => return some e.message

/-- Everything that is left of a stream. -/
partial def readAll (stream : IO.FS.Stream) (read : ByteArray) : IO ByteArray := do
  let chunk ← stream.read 65536
  if chunk.isEmpty then return read else readAll stream (read ++ chunk)

def Report.text : Report → String
  | success text => text
  | problem text => text
  | note text => text

/-- The machine that the program runs on. -/
def systemHost : Host IO where
  workingDirectory := do
    match ← tryFile IO.currentDir with
    | .ok path => return some (Path.namesFromRoot path.toString)
    | .error _ => return none
  isPresent path := return (← tryFile (IO.FS.realPath path)) matches .ok _
  readFile path := tryFile do return (← IO.FS.readBinFile path).toList
  readInput := tryFile do return (← readAll (← IO.getStdin) ByteArray.empty).toList
  createFile path := tryFile do
    let handle ← IO.FS.Handle.mk path .write
    return { write := fun text => tryWrite (handle.putStr text), flush := tryWrite handle.flush }
  printer := do
    let output ← IO.getStdout
    return { write := fun text => tryWrite (output.putStr text), flush := tryWrite output.flush }
  report line := IO.eprintln line.text

end MarkdownPreview

def main (arguments : List String) : IO UInt32 :=
  MarkdownPreview.Command.run .standard MarkdownPreview.systemHost arguments
