import MarkdownPreview.Proofs.Render.HeadingIds

/-!
Which identifiers one renderer gives to headings, over any documents, with any hook and on streams
that may fail. The renderings are traced: each visit is noted when it is made. A heading's
identifier is told by its slug and by how many headings of that slug were assigned one before it,
and two headings have the same one only if the slug of the one reads as the numbered slug of the
other.
-/

namespace MarkdownPreview.Render

variable {σ : Type}

/-- A visit when it is made: the heading counts and the stream before it. -/
structure Moment (σ : Type) where
  doc : Document
  visit : Visit
  ids : HeadingIds
  state : σ

namespace Moment

/-- What the visit comes to. -/
def result (stream : Stream σ) (hook : Hook σ) (t : Moment σ) :
    Option String × Descent × HeadingIds × σ :=
  Render.visit stream hook t.doc t.visit.node t.visit.entering t.ids t.state

/-- Whether a heading is entered that has no identifier of its own. -/
def entersUnnamed (t : Moment σ) : Bool :=
  match t.visit, t.doc.element t.visit.node with
  | .enter _, .heading _ none _ => true
  | _, _ => false

/-- Whether the hook takes the visit. -/
def isTaken (hook : Hook σ) (t : Moment σ) : Bool :=
  (hook t.doc t.visit.node t.visit.entering t.state).1.consumed

/-- Whether default markup enters a heading, which is assigned an identifier. -/
def assigns (hook : Hook σ) (t : Moment σ) : Bool := t.entersUnnamed && !t.isTaken hook

/-- The text of the node that is visited. -/
def text (t : Moment σ) : String := t.doc.plainText t.visit.node

def slug (t : Moment σ) : String := Slug.slugify t.text

/-- The identifier that a heading is assigned. -/
def identifier (t : Moment σ) : String := (t.ids.assign t.text).1

/-- The visit writes the opening tag of a heading with this identifier. -/
def Opens (stream : Stream σ) (hook : Hook σ) (t : Moment σ) (id : String) : Prop :=
  ∃ i level classes, t.visit = .enter i ∧ t.doc.element i = .heading level none classes ∧
    ((t.result stream hook).1, (t.result stream hook).2.2.2) =
      stream.putAll
        ["<h" ++ toString level ++ attr "id" id ++ markup.classAttribute classes ++ ">"]
        (hook t.doc i true t.state).2

end Moment

/-- The headings that were assigned identifiers, in order. -/
def headings (hook : Hook σ) (moments : List (Moment σ)) : List (Moment σ) :=
  moments.filter (·.assigns hook)

/-- The visits that follow right after a visit. -/
def followUps (doc : Document) (d : Descent) : Visit → List Visit
  | .enter i => followUp doc i d
  | .leave _ => []

/-- The walk, and the moments of its visits. -/
def tracedWalk (stream : Stream σ) (hook : Hook σ) (doc : Document) :
    Nat → List Visit → HeadingIds → σ → List (Moment σ) × Option String × HeadingIds × σ
  | _, [], ids, s =>
    let (failure, s) := stream.flush s
    ([], failure, ids, s)
  | 0, _ :: _, ids, s => ([], none, ids, s)
  | fuel + 1, v :: stack, ids, s =>
    let t : Moment σ := ⟨doc, v, ids, s⟩
    match t.result stream hook with
    | (some message, _, ids, s) => ([t], some message, ids, s)
    | (none, d, ids, s) =>
      let (rest, outcome) := tracedWalk stream hook doc fuel (followUps doc d v ++ stack) ids s
      (t :: rest, outcome)

/-- Documents rendered one after the other, each to a stream of its own. Only its own rendering
ends where a stream fails. -/
def renderEach (stream : Stream σ) (hook : Hook σ) :
    List (Document × σ) → HeadingIds → List (Option String × σ) × HeadingIds
  | [], ids => ([], ids)
  | (doc, s) :: rest, ids =>
    let (failure, ids, s) := render stream hook doc ids s
    let (outcomes, ids) := renderEach stream hook rest ids
    ((failure, s) :: outcomes, ids)

/-- The renderings, and the moments of all their visits. -/
def tracedEach (stream : Stream σ) (hook : Hook σ) :
    List (Document × σ) → HeadingIds → List (Moment σ) × List (Option String × σ) × HeadingIds
  | [], ids => ([], [], ids)
  | (doc, s) :: rest, ids =>
    let (moments, failure, ids, s) := tracedWalk stream hook doc (2 * doc.size) [.enter 0] ids s
    let (more, outcomes, ids) := tracedEach stream hook rest ids
    (moments ++ more, (failure, s) :: outcomes, ids)

section

variable (stream : Stream σ) (hook : Hook σ)

/-! ### The trace is of the walk -/

theorem walk_cons (doc : Document) (fuel : Nat) (v : Visit) (stack : List Visit)
    (ids : HeadingIds) (s : σ) :
    walk stream hook doc (fuel + 1) (v :: stack) ids s =
      match visit stream hook doc v.node v.entering ids s with
      | (some message, _, ids, s) => (some message, ids, s)
      | (none, d, ids, s) => walk stream hook doc fuel (followUps doc d v ++ stack) ids s := by
  cases v <;> rfl

theorem tracedWalk_snd (doc : Document) (fuel : Nat) (stack : List Visit) (ids : HeadingIds)
    (s : σ) :
    (tracedWalk stream hook doc fuel stack ids s).2 = walk stream hook doc fuel stack ids s := by
  induction fuel generalizing stack ids s with
  | zero => cases stack <;> rfl
  | succ fuel ih =>
    cases stack with
    | nil => rfl
    | cons v stack =>
      rw [tracedWalk, walk_cons, Moment.result]
      rcases visit stream hook doc v.node v.entering ids s with ⟨_ | message, d, ids', s'⟩
      · exact ih (followUps doc d v ++ stack) ids' s'
      · rfl

theorem tracedEach_snd (docs : List (Document × σ)) (ids : HeadingIds) :
    (tracedEach stream hook docs ids).2 = renderEach stream hook docs ids := by
  induction docs generalizing ids with
  | nil => rfl
  | cons first rest ih =>
    rw [tracedEach, renderEach, render, ← tracedWalk_snd]
    simp only [← ih]

/-! ### One visit -/

variable (t : Moment σ)

theorem result_of_isTaken (h : t.isTaken hook = true) : (t.result stream hook).2.2.1 = t.ids := by
  unfold Moment.isTaken at h
  unfold Moment.result visit
  generalize hook t.doc t.visit.node t.visit.entering t.state = answered at h ⊢
  obtain ⟨⟨consumed, d⟩, s⟩ := answered
  obtain rfl : consumed = true := h
  rfl

theorem result_of_not_isTaken (h : t.isTaken hook = false) :
    (t.result stream hook).2.2.1 = (markup t.doc t.visit.node t.visit.entering t.ids).2 ∧
    ((t.result stream hook).1, (t.result stream hook).2.2.2) =
      stream.putAll (markup t.doc t.visit.node t.visit.entering t.ids).1
        (hook t.doc t.visit.node t.visit.entering t.state).2 := by
  unfold Moment.isTaken at h
  unfold Moment.result visit
  generalize hook t.doc t.visit.node t.visit.entering t.state = answered at h ⊢
  obtain ⟨⟨consumed, d⟩, s⟩ := answered
  obtain rfl : consumed = false := h
  exact ⟨rfl, rfl⟩

theorem counts_markup :
    (markup t.doc t.visit.node t.visit.entering t.ids).2 =
      if t.entersUnnamed then t.ids.bump t.slug else t.ids := by
  unfold Moment.entersUnnamed Moment.slug Moment.text
  cases t.visit with
  | enter i =>
    cases helement : t.doc.element i with
    | heading level id classes =>
      cases id <;> simp [markup, HeadingIds.assign, Visit.node, Visit.entering, helement]
    | _ => simp [markup, Visit.node, Visit.entering, helement]
  | leave i => cases helement : t.doc.element i <;> simp [markup, Visit.node, Visit.entering, helement]

/-- Only a heading that is assigned an identifier is counted. -/
theorem counts_result :
    (t.result stream hook).2.2.1 = if t.assigns hook then t.ids.bump t.slug else t.ids := by
  cases htaken : t.isTaken hook with
  | true => simp [result_of_isTaken stream hook t htaken, Moment.assigns, htaken]
  | false =>
    simp [(result_of_not_isTaken stream hook t htaken).1, counts_markup, Moment.assigns, htaken]

/-- The identifier that a heading is assigned stands in its opening tag. -/
theorem opens_of_assigns {t : Moment σ} (h : t.assigns hook) :
    t.Opens stream hook t.identifier := by
  rw [Moment.assigns, Bool.and_eq_true, Bool.not_eq_true'] at h
  obtain ⟨hunnamed, htaken⟩ := h
  have hput := (result_of_not_isTaken stream hook t htaken).2
  unfold Moment.entersUnnamed at hunnamed
  split at hunnamed
  case h_1 i level classes hvisit helement =>
    rw [hvisit] at hput helement
    refine ⟨i, level, classes, hvisit, helement, ?_⟩
    rw [hput, Moment.identifier, Moment.text, hvisit, markup,
      show t.doc.element (Visit.enter i).node = _ from helement]
    rfl
  case h_2 => cases hunnamed

/-! ### All visits -/

/-- The identifiers in a trace that a visit begins, from those in the rest of it. -/
theorem identifiers_cons {more : List (Moment σ)} {rest identifiers : List String}
    (h : (headings hook more).map Moment.identifier ++ identifiers =
      (t.result stream hook).2.2.1.assignAll ((headings hook more).map Moment.text ++ rest)) :
    (headings hook (t :: more)).map Moment.identifier ++ identifiers =
      t.ids.assignAll ((headings hook (t :: more)).map Moment.text ++ rest) := by
  rw [counts_result] at h
  unfold headings at h ⊢
  cases hassigns : t.assigns hook with
  | true =>
    rw [hassigns, if_pos rfl] at h
    rw [List.filter_cons_of_pos hassigns, List.map_cons, List.map_cons, List.cons_append, h]
    rfl
  | false =>
    rw [hassigns] at h
    rw [List.filter_cons_of_neg (by simp [hassigns])]
    exact h

/-- The identifiers in the trace of a walk are those of the headings' texts, in order. -/
theorem identifiers_tracedWalk (doc : Document) (fuel : Nat) (stack : List Visit)
    (ids : HeadingIds) (s : σ) (rest : List String) :
    let traced := tracedWalk stream hook doc fuel stack ids s
    (headings hook traced.1).map Moment.identifier ++ traced.2.2.1.assignAll rest =
      ids.assignAll ((headings hook traced.1).map Moment.text ++ rest) := by
  induction fuel generalizing stack ids s with
  | zero => cases stack <;> rfl
  | succ fuel ih =>
    cases stack with
    | nil => rfl
    | cons v stack =>
      have hcons := @identifiers_cons σ stream hook ⟨doc, v, ids, s⟩
      rw [tracedWalk]
      rcases hresult : Moment.result stream hook ⟨doc, v, ids, s⟩ with ⟨_ | message, d, ids', s'⟩
      all_goals rw [hresult] at hcons
      · exact hcons (ih (followUps doc d v ++ stack) ids' s')
      · exact hcons rfl

theorem headings_append (moments more : List (Moment σ)) :
    headings hook (moments ++ more) = headings hook moments ++ headings hook more :=
  List.filter_append moments more

theorem identifiers_tracedEach (docs : List (Document × σ)) (ids : HeadingIds)
    (rest : List String) :
    let traced := tracedEach stream hook docs ids
    (headings hook traced.1).map Moment.identifier ++ traced.2.2.assignAll rest =
      ids.assignAll ((headings hook traced.1).map Moment.text ++ rest) := by
  induction docs generalizing ids with
  | nil => rfl
  | cons first docs ih =>
    obtain ⟨doc, s⟩ := first
    have hmore := ih (tracedWalk stream hook doc (2 * doc.size) [.enter 0] ids s).2.2.1
    have hwalk := identifiers_tracedWalk stream hook doc (2 * doc.size) [.enter 0] ids s
    simp only at hmore hwalk
    simp only [tracedEach, headings_append, List.map_append, List.append_assoc]
    rw [← hwalk, ← hmore]

theorem identifiers_headings (docs : List (Document × σ)) :
    (headings hook (tracedEach stream hook docs {}).1).map Moment.identifier =
      HeadingIds.assignAll {} ((headings hook (tracedEach stream hook docs {}).1).map Moment.text) := by
  have h := identifiers_tracedEach stream hook docs {} []
  simp only [List.append_nil, HeadingIds.assignAll] at h
  exact h

end

/-- What is assigned to the texts of headings: a slug that came before is numbered. -/
theorem identifier_of_getElem? {found : List (Moment σ)}
    (hassigned : found.map Moment.identifier = HeadingIds.assignAll {} (found.map Moment.text))
    {p : Nat} {t : Moment σ} (h : found[p]? = some t) :
    t.identifier =
      HeadingIds.identifier t.slug (((found.map Moment.slug).take p).count t.slug) := by
  have hslug : ((found.map Moment.text).map Slug.slugify)[p]? = some t.slug := by
    rw [List.map_map, List.getElem?_map, h]
    rfl
  have hp := congrArg (·[p]?) hassigned
  simp only [List.getElem?_map, h, HeadingIds.getElem?_assignAll_empty hslug, List.map_map] at hp
  exact Option.some_inj.mp hp

/-- Over any documents that one renderer renders, a heading that is assigned an identifier gets its
slug if that is the first of its kind, and otherwise its slug with a dash and the number of times
that it came before. No other visit touches the counts. Two headings get the same identifier if and
only if the slug of the one is the first of its kind and reads as that of the other with a dash and
its number. -/
theorem identifiers_of_headings (stream : Stream σ) (hook : Hook σ) (docs : List (Document × σ)) :
    let moments := (tracedEach stream hook docs {}).1
    let found := headings hook moments
    let slugs := found.map Moment.slug
    let id (slug : String) (n : Nat) := if n = 0 then slug else slug ++ "-" ++ toString n
    (tracedEach stream hook docs {}).2 = renderEach stream hook docs {} ∧
    (∀ t ∈ moments, t ∉ found → (t.result stream hook).2.2.1 = t.ids) ∧
    (∀ (p : Nat) (t : Moment σ), found[p]? = some t →
      t.Opens stream hook (id t.slug ((slugs.take p).count t.slug))) ∧
    ∀ (p q : Nat) (t u : Moment σ), p ≠ q → found[p]? = some t → found[q]? = some u →
      let n := (slugs.take p).count t.slug
      let n' := (slugs.take q).count u.slug
      (id t.slug n = id u.slug n' ↔
        (n = 0 ∧ 0 < n' ∧ t.slug = u.slug ++ "-" ++ toString n') ∨
        (n' = 0 ∧ 0 < n ∧ u.slug = t.slug ++ "-" ++ toString n)) := by
  intro moments found slugs id
  have hid : id = HeadingIds.identifier := by
    funext slug n
    exact (HeadingIds.identifier_eq_ite slug n).symm
  have hslug {p : Nat} {t : Moment σ} (h : found[p]? = some t) : slugs[p]? = some t.slug := by
    rw [List.getElem?_map, h, Option.map_some]
  refine ⟨tracedEach_snd stream hook docs {}, ?_, ?_, ?_⟩
  · intro t ht hfound
    have hassigns : ¬t.assigns hook := fun h => hfound (List.mem_filter.mpr ⟨ht, h⟩)
    rw [counts_result, if_neg hassigns]
  · intro p t ht
    rw [hid, ← identifier_of_getElem? (identifiers_headings stream hook docs) ht]
    exact opens_of_assigns stream hook (List.mem_filter.mp (List.mem_of_getElem? ht)).2
  · intro p q t u hpq ht hu
    rw [hid]
    exact HeadingIds.identifier_eq_iff_of_ne hpq (hslug ht) (hslug hu)

end MarkdownPreview.Render
