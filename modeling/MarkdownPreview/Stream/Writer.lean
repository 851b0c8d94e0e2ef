import MarkdownPreview.Stream.Basic

/-!
Writers: streams whose state is that of the surroundings they write to.
-/

namespace MarkdownPreview

/-- Takes text piece by piece, and may keep it back until it is flushed. Either action may fail
with a message. -/
structure Writer (m : Type → Type) where
  write : String → m (Option String)
  flush : m (Option String)

namespace Writer

variable {m : Type → Type} [Monad m]

/-- Writes a piece, unless it is empty. -/
def put (writer : Writer m) (piece : String) : m (Option String) :=
  if piece.isEmpty then return none else writer.write piece

/-- Writes pieces in order. The first failure ends the writing. -/
def putAll (writer : Writer m) : List String → m (Option String)
  | [] => return none
  | piece :: rest => do
    match ← writer.put piece with
    | none => writer.putAll rest
    | some message => return some message

end Writer

/-- The writer onto the state of a stream. -/
def Stream.writer {σ : Type} (stream : Stream σ) : Writer (StateM σ) where
  write := stream.write
  flush := stream.flush

end MarkdownPreview
