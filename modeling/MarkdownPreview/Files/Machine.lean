import MarkdownPreview.Files.Tree
import MarkdownPreview.Stream.Writer

/-!
A machine that is a value: what a command finds on it and what the command leaves behind. Output is
kept back in blocks or by lines, and a write to a file or to the standard output may fail when a
part of its bytes is taken.
-/

namespace MarkdownPreview

/-- What a command says beside its output. Where colors are shown, a success is green and a problem
red. -/
inductive Report
  | success (text : String)
  | problem (text : String)
  | note (text : String)
  deriving DecidableEq, Repr

/-- How a write fails: so many bytes are taken before. -/
structure WriteFault where
  taken : Nat
  cause : FileError
  deriving DecidableEq, Repr

/-- A machine: its files, the input of a command or why it cannot be read, which of the writes to
come fail, and what a command has written so far. -/
structure Machine where
  files : FileTree
  workingDirectory : List String
  input : List UInt8 := []
  inputFault : Option FileError := none
  /-- Whether a write fails, by the number of writes before it. -/
  writeFault? : Nat → Option WriteFault := fun _ => none
  /-- How many bytes are kept back that go to a file. -/
  blockSize : Nat := 8192
  /-- How many bytes of a line are kept back that go to the standard output. -/
  lineSize : Nat := 1024
  writes : Nat := 0
  /-- What the writer that is open keeps back. -/
  kept : List UInt8 := []
  printed : List UInt8 := []
  reports : List Report := []

/-- The bytes of a text. -/
def bytesOf (text : String) : List UInt8 := text.toUTF8.data.toList

namespace Machine

/-! ### Sending -/

/-- The machine with bytes added to where they go. -/
def put (sink : Sink) (bytes : List UInt8) (s : Machine) : Machine :=
  match sink with
  | .file number => { s with files := s.files.append number bytes }
  | .standardOutput => { s with printed := s.printed ++ bytes }
  | .nowhere | .refused _ => s

/-- What stops a write before all of its bytes are taken, if anything does. -/
def faultOf? (sink : Sink) (bytes : List UInt8) (s : Machine) : Option WriteFault :=
  match sink with
  | .refused cause => some ⟨0, cause⟩
  | _ => (s.writeFault? s.writes).filter (·.taken < bytes.length)

/-- Writes bytes to where they go, as many as are taken. -/
def send (sink : Sink) (bytes : List UInt8) (s : Machine) : Option WriteFault × Machine :=
  match s.faultOf? sink bytes with
  | none => (none, { s.put sink bytes with writes := s.writes + 1 })
  | some fault =>
    (some fault, { s.put sink (bytes.take fault.taken) with writes := s.writes + 1 })

/-- Writes bytes without keeping any back. -/
def sendAll (sink : Sink) (bytes : List UInt8) (s : Machine) : Option String × Machine :=
  match s.send sink bytes with
  | (fault, s) => (fault.map (·.cause.message), s)

/-- Sends what was kept back. What is not taken of it is kept. -/
def sendKept (sink : Sink) (s : Machine) : Option String × Machine :=
  if s.kept.isEmpty then (none, s)
  else
    match s.send sink s.kept with
    | (none, s) => (none, { s with kept := [] })
    | (some fault, s) => (some fault.cause.message, { s with kept := s.kept.drop fault.taken })

/-! ### Keeping back -/

/-- Keeps bytes back, at most a block. What was kept goes first where both are too much together,
and bytes that fill a block go at once. -/
def keep (sink : Sink) (blockSize : Nat) (bytes : List UInt8) (s : Machine) :
    Option String × Machine :=
  Stream.andThen (if blockSize < s.kept.length + bytes.length then s.sendKept sink else (none, s))
    fun s =>
      if blockSize ≤ bytes.length then s.sendAll sink bytes
      else (none, { s with kept := s.kept ++ bytes })

def lineBreak : UInt8 := 10

/-- Bytes up to the last line break, and those after it. -/
def cutLines (bytes : List UInt8) : List UInt8 × List UInt8 :=
  let (tail, lines) := bytes.reverse.span (· != lineBreak)
  (lines.reverse, tail.reverse)

/-- Keeps back the bytes after the last line break, and sends the lines before it. Lines that could
not be sent before go first. -/
def keepLines (sink : Sink) (lineSize : Nat) (bytes : List UInt8) (s : Machine) :
    Option String × Machine :=
  let (lines, tail) := cutLines bytes
  Stream.andThen
    (if lines.isEmpty then
      if s.kept.getLast? == some lineBreak then s.sendKept sink else (none, s)
    else if s.kept.isEmpty then s.sendAll sink lines
    else Stream.andThen (s.keep sink lineSize lines) (sendKept sink))
    (keep sink lineSize tail)

/-- The stream to where bytes go that keeps them back in blocks. -/
def blocks (sink : Sink) (blockSize : Nat) : Stream Machine where
  write piece := keep sink blockSize (bytesOf piece)
  flush := sendKept sink

/-- The stream to where bytes go that keeps them back by lines. -/
def lines (sink : Sink) (lineSize : Nat) : Stream Machine where
  write piece := keepLines sink lineSize (bytesOf piece)
  flush := sendKept sink

end Machine

end MarkdownPreview
