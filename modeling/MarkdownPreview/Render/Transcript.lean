import MarkdownPreview.Render.Walk
import MarkdownPreview.Stream.Writer

/-!
The transcript of a rendering: the visits of a walk, in order, with what is written at each. It
depends on the document, on what the hook writes and on the heading counts, but not on where it is
written to, so it can be played onto a stream or a writer.
-/

namespace MarkdownPreview

namespace Render

variable {σ : Type}

def Visit.node : Visit → Nat
  | .enter i | .leave i => i

def Visit.entering : Visit → Bool
  | .enter _ => true
  | .leave _ => false

/-- The visits to a node and all below it, to a given depth. Nothing below an image is visited. -/
def tourTo (doc : Document) : Nat → Nat → List Visit
  | 0, _ => []
  | depth + 1, i =>
    .enter i ::
      if (doc.element i).isContainer then
        (match descent true (doc.element i) with
          | .children => (doc.children i).flatMap (tourTo doc depth)
          | .skip => []) ++ [.leave i]
      else []

/-- The visits of a whole walk. A chain of nodes is never longer than the document. -/
def tour (doc : Document) : List Visit := tourTo doc doc.size 0

/-- What a hook writes at each visit, and whether the children follow; nothing where it
declines. -/
abbrev Script := Document → Nat → Bool → Option (List String × Descent)

/-- A visit, what is written at it and who writes it. A heading without an identifier of its own is
assigned one when default markup enters it. -/
structure Entry where
  visit : Visit
  taken : Bool
  pieces : List String
  assigned : Option String
  deriving DecidableEq, Repr

def Entry.html (e : Entry) : String := String.join e.pieces

/-- The identifier that default markup assigns at a visit. -/
def assigned? (doc : Document) (ids : HeadingIds) : Visit → Option String
  | .enter i =>
    match doc.element i with
    | .heading _ none _ => some (ids.assign (doc.plainText i)).1
    | _ => none
  | .leave _ => none

namespace Script

/-- Default markup, with no hook at all. -/
def none : Script := fun _ _ _ => .none

/-- The hook that writes by a script. A failure to write counts as a visit taken. -/
def hook (script : Script) (stream : Stream σ) : Hook σ := fun doc i entering s =>
  match script doc i entering with
  | .none => (.declined, s)
  | some (pieces, descent) =>
    match stream.putAll pieces s with
    | (.none, s) => (⟨true, descent⟩, s)
    | (some _, s) => (.handled, s)

def entry (script : Script) (doc : Document) (ids : HeadingIds) (v : Visit) : Entry :=
  match script doc v.node v.entering with
  | some (pieces, _) => ⟨v, true, pieces, .none⟩
  | .none => ⟨v, false, (markup doc v.node v.entering ids).1, assigned? doc ids v⟩

/-- The heading counts after a visit. -/
def countsAfter (script : Script) (doc : Document) (ids : HeadingIds) (v : Visit) : HeadingIds :=
  match script doc v.node v.entering with
  | some _ => ids
  | .none => (markup doc v.node v.entering ids).2

def entries (script : Script) (doc : Document) (ids : HeadingIds) : List Visit → List Entry
  | [] => []
  | v :: rest => script.entry doc ids v :: script.entries doc (script.countsAfter doc ids v) rest

/-- The entries of a whole walk. -/
def transcript (script : Script) (doc : Document) (ids : HeadingIds) : List Entry :=
  script.entries doc ids (tour doc)

end Script

/-- Writes entries in order. The first failure of default markup ends it; a failure in what the
hook writes loses the rest of the entry. -/
def play (stream : Stream σ) : List Entry → σ → Option String × σ
  | [], s => (none, s)
  | e :: rest, s =>
    match stream.putAll e.pieces s, e.taken with
    | (some message, s), false => (some message, s)
    | (_, s), _ => play stream rest s

/-- Plays entries to their end and flushes the stream after that. -/
def perform (stream : Stream σ) (entries : List Entry) (s : σ) : Option String × σ :=
  match play stream entries s with
  | (none, s) => stream.flush s
  | (some message, s) => (some message, s)

end Render

namespace Writer

open Render (Entry)

variable {m : Type → Type} [Monad m]

/-- Writes entries in order. The first failure of default markup ends it; a failure in what the
hook writes loses the rest of the entry. -/
def play (writer : Writer m) : List Entry → m (Option String)
  | [] => return none
  | e :: rest => do
    match ← writer.putAll e.pieces, e.taken with
    | some message, false => return some message
    | _, _ => writer.play rest

/-- Plays entries to their end and flushes the writer after that. -/
def perform (writer : Writer m) (entries : List Entry) : m (Option String) := do
  match ← writer.play entries with
  | none => writer.flush
  | some message => return some message

end Writer

end MarkdownPreview
