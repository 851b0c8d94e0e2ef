import MarkdownPreview.Files.Machine

/-!
What a command asks of the machine that it runs on, and how a machine that is a value answers.
-/

namespace MarkdownPreview

/-- The actions of a machine. -/
structure Host (m : Type → Type) where
  /-- None if the directory is not there any more. -/
  workingDirectory : m (Option (List String))
  isPresent : String → m Bool
  readFile : String → m (Except FileError (List UInt8))
  readInput : m (Except FileError (List UInt8))
  /-- Makes a file, or empties the one that is there, and gives the writer to it. -/
  createFile : String → m (Except FileError (Writer m))
  /-- The writer to the standard output. -/
  printer : m (Writer m)
  report : Report → m Unit

/-- The actions of a machine that is a value. A new writer keeps nothing back. -/
def Machine.host : Host (StateM Machine) where
  workingDirectory := do
    let s ← get
    return if s.files.lookup? s.workingDirectory = some .directory then some s.workingDirectory
      else none
  isPresent path := return (← get).files.isPresent (← get).workingDirectory path
  readFile path := return (← get).files.read (← get).workingDirectory path
  readInput := modifyGet fun s =>
    match s.inputFault with
    | some e => (.error e, s)
    | none => (.ok s.input, { s with input := [] })
  createFile path := modifyGet fun s =>
    match s.files.create s.workingDirectory path with
    | .ok (files, sink) => (.ok (blocks sink s.blockSize).writer, { s with files, kept := [] })
    | .error e => (.error e, s)
  printer := modifyGet fun s =>
    ((lines .standardOutput s.lineSize).writer, { s with kept := [] })
  report line := modify fun s => { s with reports := s.reports ++ [line] }

end MarkdownPreview
