/-!
Output streams that may fail. A stream over states `σ` answers each piece of output: it may
deliver a part of the piece and fail with a message. What it delivered is in its state.
-/

namespace MarkdownPreview

structure Stream (σ : Type) where
  write : String → σ → Option String × σ
  flush : σ → Option String × σ

namespace Stream

variable {σ : Type}

/-- Writes a piece. An empty piece never reaches the stream. -/
def put (stream : Stream σ) (piece : String) (s : σ) : Option String × σ :=
  if piece.isEmpty then (none, s) else stream.write piece s

/-- Writes pieces in order. The first failure ends the writing. -/
def putAll (stream : Stream σ) : List String → σ → Option String × σ
  | [], s => (none, s)
  | piece :: rest, s =>
    match stream.put piece s with
    | (none, s) => stream.putAll rest s
    | (some message, s) => (some message, s)

/-- A stream that takes everything and keeps it. -/
def buffer : Stream String where
  write piece s := (none, s ++ piece)
  flush s := (none, s)

/-- What comes after a step, if the step does not fail. -/
def andThen (step : Option String × σ) (next : σ → Option String × σ) : Option String × σ :=
  match step with
  | (none, s) => next s
  | (some message, s) => (some message, s)

end Stream

end MarkdownPreview
