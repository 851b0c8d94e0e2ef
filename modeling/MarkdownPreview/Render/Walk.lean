import MarkdownPreview.Render.Markup
import MarkdownPreview.Stream.Basic

/-!
The walk over a document. Visits that are still to be made are kept on a stack. A hook sees each
visit first; where it does not take the visit, the default markup is written. The first failure of
default markup ends the walk, and the stream is flushed after a complete one.
-/

namespace MarkdownPreview.Render

/-- A hook's answer. The descent counts only if the hook took the visit. -/
structure Answer where
  consumed : Bool
  descent : Descent
  deriving DecidableEq, Repr, Inhabited

namespace Answer

/-- The visit is left to the default markup. -/
def declined : Answer := ⟨false, .children⟩

/-- The hook wrote the node; its children follow. -/
def handled : Answer := ⟨true, .children⟩

/-- The hook wrote the node and all below it. -/
def handledAll : Answer := ⟨true, .skip⟩

end Answer

/-- A hook may write to the stream at every visit, and answers whether it took the visit. -/
abbrev Hook (σ : Type) := Document → Nat → Bool → σ → Answer × σ

/-- The hook that declines every visit. -/
def noHook {σ : Type} : Hook σ := fun _ _ _ s => (.declined, s)

inductive Visit
  | enter (i : Nat)
  | leave (i : Nat)
  deriving DecidableEq, Repr

variable {σ : Type}

/-- One visit: the failure if there is one, whether to go on to the children, and what is kept. -/
def visit (stream : Stream σ) (hook : Hook σ) (doc : Document) (i : Nat) (entering : Bool)
    (ids : HeadingIds) (s : σ) : Option String × Descent × HeadingIds × σ :=
  match hook doc i entering s with
  | (⟨true, descent⟩, s) => (none, descent, ids, s)
  | (⟨false, _⟩, s) =>
    let (pieces, ids) := markup doc i entering ids
    let (failure, s) := stream.putAll pieces s
    (failure, descent entering (doc.element i), ids, s)

/-- The visits that entering a node puts before the others. -/
def followUp (doc : Document) (i : Nat) (d : Descent) : List Visit :=
  if (doc.element i).isContainer then
    (match d with
      | .children => (doc.children i).map Visit.enter
      | .skip => []) ++ [.leave i]
  else []

/-- Makes the visits on the stack, at most as many as the first number says. -/
def walk (stream : Stream σ) (hook : Hook σ) (doc : Document) :
    Nat → List Visit → HeadingIds → σ → Option String × HeadingIds × σ
  | _, [], ids, s =>
    let (failure, s) := stream.flush s
    (failure, ids, s)
  | 0, _ :: _, ids, s => (none, ids, s)
  | fuel + 1, .enter i :: stack, ids, s =>
    match visit stream hook doc i true ids s with
    | (some message, _, ids, s) => (some message, ids, s)
    | (none, d, ids, s) => walk stream hook doc fuel (followUp doc i d ++ stack) ids s
  | fuel + 1, .leave i :: stack, ids, s =>
    match visit stream hook doc i false ids s with
    | (some message, _, ids, s) => (some message, ids, s)
    | (none, _, ids, s) => walk stream hook doc fuel stack ids s

/-- Renders a document. No node is visited more than twice, which bounds the walk. -/
def render (stream : Stream σ) (hook : Hook σ) (doc : Document) (ids : HeadingIds) (s : σ) :
    Option String × HeadingIds × σ :=
  walk stream hook doc (2 * doc.size) [.enter 0] ids s

end MarkdownPreview.Render
