import MarkdownPreview.Proofs.Document.Invariant
import MarkdownPreview.Render.Walk

/-!
The recursive walk over a document, and its equality with rendering by a stack of visits. Visits
that are on top of the stack are made before anything below them is looked at, and every node is
visited at most twice, so the bound on the number of visits is never reached.
-/

namespace MarkdownPreview.Render

variable {σ : Type}

/-- Rendering as a computation: it keeps heading counts and a stream, and may fail. What was kept
so far is there after a failure as well. -/
def Rendering (σ α : Type) : Type := HeadingIds × σ → Except String α × (HeadingIds × σ)

instance : Monad (Rendering σ) where
  pure a kept := (.ok a, kept)
  bind m k kept :=
    match m kept with
    | (.ok a, kept) => k a kept
    | (.error message, kept) => (.error message, kept)

namespace Rendering

/-- The failure of a rendering if there is one, and what is kept. -/
def outcome (m : Rendering σ Unit) (ids : HeadingIds) (s : σ) : Option String × HeadingIds × σ :=
  match m (ids, s) with
  | (.ok (), kept) => (none, kept)
  | (.error message, kept) => (some message, kept)

/-- An operation of a stream. -/
def attempt (operation : σ → Option String × σ) : Rendering σ Unit := fun (ids, s) =>
  match operation s with
  | (none, s) => (.ok (), ids, s)
  | (some message, s) => (.error message, ids, s)

def ask (hook : Hook σ) (doc : Document) (i : Nat) (entering : Bool) : Rendering σ Answer :=
  fun (ids, s) =>
    let (answer, s) := hook doc i entering s
    (.ok answer, ids, s)

def defaultMarkup (doc : Document) (i : Nat) (entering : Bool) : Rendering σ (List String) :=
  fun (ids, s) =>
    let (pieces, ids) := markup doc i entering ids
    (.ok pieces, ids, s)

/-- One visit. The hook's descent counts if it took the visit; otherwise the default markup is
written, and the element decides. -/
def visited (stream : Stream σ) (hook : Hook σ) (doc : Document) (i : Nat) (entering : Bool) :
    Rendering σ Descent := do
  let answer ← ask hook doc i entering
  if answer.consumed then
    return answer.descent
  else
    let pieces ← defaultMarkup doc i entering
    pieces.forM fun piece => attempt (stream.put piece)
    return descent entering (doc.element i)

/-- The walk over a node and all below it: the node is visited, and a container once more after its
children, which may be left out. -/
def walkNode (stream : Stream σ) (hook : Hook σ) {doc : Document} (linked : doc.Linked) (i : Nat) :
    Rendering σ Unit := do
  let d ← visited stream hook doc i true
  if (doc.element i).isContainer then
    if d = .children then
      (doc.children i).attach.forM fun ⟨c, _⟩ => walkNode stream hook linked c
    let _ ← visited stream hook doc i false
termination_by doc.size - i
decreasing_by
  rename_i h
  have hlt := linked.parent_lt (linked.mem_children_iff.mp h)
  omega

/-- The walk over a document; the stream is flushed after a complete one. -/
def walkDocument (stream : Stream σ) (hook : Hook σ) {doc : Document} (linked : doc.Linked) :
    Rendering σ Unit := do
  walkNode stream hook linked 0
  attempt stream.flush

theorem bind_apply {α β : Type} (m : Rendering σ α) (k : α → Rendering σ β)
    (kept : HeadingIds × σ) :
    (m >>= k) kept =
      match m kept with
      | (.ok a, kept) => k a kept
      | (.error message, kept) => (.error message, kept) := rfl

theorem attempt_apply (operation : σ → Option String × σ) (ids : HeadingIds) (s : σ) :
    attempt operation (ids, s) =
      match operation s with
      | (none, s) => (.ok (), ids, s)
      | (some message, s) => (.error message, ids, s) := rfl

theorem forM_put_apply (stream : Stream σ) (pieces : List String) (ids : HeadingIds) (s : σ) :
    (pieces.forM fun piece => attempt (stream.put piece)) (ids, s) =
      attempt (stream.putAll pieces) (ids, s) := by
  induction pieces generalizing s with
  | nil => rfl
  | cons piece rest ih =>
    rw [List.forM_eq_forM, List.forM_cons, bind_apply, attempt_apply, attempt_apply, Stream.putAll]
    rcases stream.put piece s with ⟨_ | message, s'⟩
    · exact ih s'
    · rfl

theorem visited_apply (stream : Stream σ) (hook : Hook σ) (doc : Document) (i : Nat)
    (entering : Bool) (ids : HeadingIds) (s : σ) :
    visited stream hook doc i entering (ids, s) =
      match visit stream hook doc i entering ids s with
      | (none, d, kept) => (.ok d, kept)
      | (some message, _, kept) => (.error message, kept) := by
  rw [visited, bind_apply, ask, visit]
  -- the hook's descent is dropped if the hook declined
  rcases hook doc i entering s with ⟨⟨_ | _, d⟩, s'⟩
  · have hput := forM_put_apply stream (markup doc i entering ids).1
      (markup doc i entering ids).2 s'
    simp only [Bool.false_eq_true, if_false, bind_apply, defaultMarkup, hput, attempt_apply]
    rcases stream.putAll (markup doc i entering ids).1 s' with ⟨_ | message, s''⟩ <;> rfl
  · rfl

theorem forM_attach {l : List Nat} (f : Nat → Rendering σ Unit) :
    (l.attach.forM fun c => f c.1) = l.forM f := by
  have hmap : ∀ cs : List { c // c ∈ l },
      (cs.forM fun c => f c.1) = (cs.map Subtype.val).forM f := by
    intro cs
    induction cs with
    | nil => rfl
    | cons c cs ih => exact congrArg (fun m => f c.1 >>= fun _ => m) ih
  rw [hmap, List.attach_map_subtype_val]

theorem walkNode_eq (stream : Stream σ) (hook : Hook σ) {doc : Document} (linked : doc.Linked)
    (i : Nat) :
    walkNode stream hook linked i = (do
      let d ← visited stream hook doc i true
      if (doc.element i).isContainer then
        if d = .children then (doc.children i).forM (walkNode stream hook linked)
        let _ ← visited stream hook doc i false) := by
  rw [walkNode, ← forM_attach (walkNode stream hook linked)]

/-! ### The stack of visits -/

/-- The visits on top of the stack come to what a rendering does. They need the given fuel; all
that is left of it is there for the rest of the stack. -/
def Performs (stream : Stream σ) (hook : Hook σ) (doc : Document) (visits : List Visit)
    (needed : Nat) (m : Rendering σ Unit) : Prop :=
  ∀ (stack : List Visit) (fuel spare : Nat), needed + spare ≤ fuel →
    ∀ (ids : HeadingIds) (s : σ), ∃ fuel', spare ≤ fuel' ∧
      walk stream hook doc fuel (visits ++ stack) ids s =
        match m (ids, s) with
        | (.ok (), ids, s) => walk stream hook doc fuel' stack ids s
        | (.error message, ids, s) => (some message, ids, s)

section

variable {stream : Stream σ} {hook : Hook σ} {doc : Document} {visits : List Visit} {n k : Nat}
  {m : Rendering σ Unit}

theorem Performs.mono (h : Performs stream hook doc visits n m) (hle : n ≤ k) :
    Performs stream hook doc visits k m :=
  fun stack fuel spare hfuel => h stack fuel spare (by omega)

theorem Performs.nil : Performs stream hook doc [] 0 (pure ()) := by
  intro stack fuel spare hfuel ids s
  exact ⟨fuel, by omega, rfl⟩

theorem Performs.append {visits' : List Visit} {m' : Rendering σ Unit}
    (h : Performs stream hook doc visits n m) (h' : Performs stream hook doc visits' k m') :
    Performs stream hook doc (visits ++ visits') (n + k) (m >>= fun _ => m') := by
  intro stack fuel spare hfuel ids s
  obtain ⟨fuel', hfuel', heq⟩ := h (visits' ++ stack) fuel (k + spare) (by omega) ids s
  rw [List.append_assoc, heq, bind_apply]
  rcases m (ids, s) with ⟨message | ⟨⟩, ids', s'⟩
  · exact ⟨spare, Nat.le_refl _, rfl⟩
  · exact h' stack fuel' spare hfuel' ids' s'

theorem Performs.leave (i : Nat) :
    Performs stream hook doc [.leave i] 1 (do
      let _ ← visited stream hook doc i false) := by
  intro stack fuel spare hfuel ids s
  obtain ⟨fuel, rfl⟩ : ∃ rest, fuel = rest + 1 := ⟨fuel - 1, by omega⟩
  refine ⟨fuel, by omega, ?_⟩
  rw [List.singleton_append, walk, bind_apply, visited_apply]
  rcases visit stream hook doc i false ids s with ⟨_ | message, d, ids', s'⟩ <;> rfl

/-- Entering a node puts its further visits on the stack. -/
theorem Performs.enter {i : Nat} {after : Descent → Rendering σ Unit}
    (h : ∀ d, Performs stream hook doc (followUp doc i d) n (after d)) :
    Performs stream hook doc [.enter i] (n + 1) (visited stream hook doc i true >>= after) := by
  intro stack fuel spare hfuel ids s
  obtain ⟨fuel, rfl⟩ : ∃ rest, fuel = rest + 1 := ⟨fuel - 1, by omega⟩
  rw [List.singleton_append, walk, bind_apply, visited_apply]
  rcases visit stream hook doc i true ids s with ⟨_ | message, d, ids', s'⟩
  · exact h d stack fuel spare (by omega) ids' s'
  · exact ⟨spare, Nat.le_refl _, rfl⟩

end

/-- Entering nodes one after the other does what the recursive walks over them do. Each node is
visited at most twice. -/
theorem performs_forM (stream : Stream σ) (hook : Hook σ) {doc : Document} (linked : doc.Linked)
    {is visits : List Nat} (h : doc.Preorder is visits) :
    Performs stream hook doc (is.map .enter) (2 * visits.length)
      (is.forM (walkNode stream hook linked)) := by
  induction h with
  | nil => exact .nil
  | @cons i rest below after _ _ ihbelow ihafter =>
    have hnode : Performs stream hook doc [.enter i] (2 * below.length + 1 + 1)
        (walkNode stream hook linked i) := by
      rw [walkNode_eq]
      refine .enter fun d => ?_
      unfold followUp
      split
      · -- the second visit waits below the children on the stack
        cases d with
        | children => exact ihbelow.append (.leave i)
        | skip => exact (Performs.leave i).mono (by omega)
      · exact Performs.nil.mono (Nat.zero_le _)
    have hall := hnode.append ihafter
    refine hall.mono ?_
    simp only [List.length_cons, List.length_append]
    omega

/-- Rendering with the stack of visits is the recursive walk, on every stream and with every
hook. -/
theorem render_eq_outcome (stream : Stream σ) (hook : Hook σ) {doc : Document}
    (linked : doc.Linked) (hpreorder : doc.Preorder [0] (List.range doc.size)) (ids : HeadingIds)
    (s : σ) :
    render stream hook doc ids s = (walkDocument stream hook linked).outcome ids s := by
  have hroot : Performs stream hook doc ([Visit.enter 0] ++ []) (2 * doc.size + 0)
      (walkNode stream hook linked 0 >>= fun _ => pure ()) := by
    have h := performs_forM stream hook linked hpreorder
    rw [List.length_range] at h
    exact h
  obtain ⟨fuel, -, hwalk⟩ := hroot [] (2 * doc.size) 0 (Nat.le_refl _) ids s
  rw [render]
  refine hwalk.trans ?_
  rw [outcome, walkDocument, bind_apply, bind_apply]
  rcases walkNode stream hook linked 0 (ids, s) with ⟨message | ⟨⟩, ids', s'⟩
  · rfl
  · change walk stream hook doc fuel [] ids' s' = (attempt stream.flush).outcome ids' s'
    rw [walk, outcome, attempt_apply]
    rcases stream.flush s' with ⟨_ | message, s''⟩ <;> rfl

/-- The document of any events is rendered as the recursive walk over it does it. -/
theorem render_ofEvents (stream : Stream σ) (hook : Hook σ) (events : List Event)
    (ids : HeadingIds) (s : σ) :
    render stream hook (Document.ofEvents events) ids s =
      (walkDocument stream hook (Document.linked_ofEvents events)).outcome ids s :=
  render_eq_outcome stream hook _ (Document.preorder_ofEvents events) ids s

end Rendering

end MarkdownPreview.Render
