import MarkdownPreview.Event

/-!
Well nested lists of events and the forests that they spell. A list is well nested if every start
has its matching end and verbatim elements have nothing but text in them. These are exactly the
lists that spell a forest of events.
-/

namespace MarkdownPreview

inductive EventTree
  | leaf (event : Event)
  | element (tag : Tag) (content : List EventTree)
  deriving Repr, Inhabited

/-- Events other than starts and ends. -/
def Event.isLeaf : Event → Bool
  | start _ | finish _ => false
  | _ => true

def Event.isText : Event → Bool
  | text _ => true
  | _ => false

def Event.isHtml : Event → Bool
  | html _ => true
  | _ => false

/-- Whether an event may stand directly in an element. -/
def Tag.admits : Tag → Event → Bool
  | fencedCode _, event | indentedCode, event | metadata, event => event.isText
  | htmlBlock, event => event.isText || event.isHtml
  | _, _ => true

/-- Whether an event may stand in the innermost of the open elements, if there is one. -/
def admitted (tags : List Tag) (event : Event) : Bool :=
  tags.head?.all (·.admits event)

/-- Whether a list of events ends each element that it starts, and then the open ones, and respects
what each element admits. The innermost open element comes first. -/
def nestedIn : List Tag → List Event → Bool
  | tags, [] => tags.isEmpty
  | tags, .start tag :: rest => admitted tags (.start tag) && nestedIn (tag :: tags) rest
  | [], .finish _ :: _ => false
  | tag :: tags, .finish name :: rest => decide (tag.name = name) && nestedIn tags rest
  | tags, event :: rest => admitted tags event && nestedIn tags rest

def WellNested (events : List Event) : Prop := nestedIn [] events = true

instance (events : List Event) : Decidable (WellNested events) :=
  inferInstanceAs (Decidable (_ = _))

namespace EventTree

mutual
def events : EventTree → List Event
  | leaf event => [event]
  | element tag content => tag.around (eventsAll content)

def eventsAll : List EventTree → List Event
  | [] => []
  | t :: ts => t.events ++ eventsAll ts
end

/-- The leaves are leaves, and every element admits what is directly in it. -/
inductive Nested : Option Tag → EventTree → Prop
  | leaf {parent : Option Tag} {event : Event} :
      event.isLeaf = true → parent.all (·.admits event) = true → Nested parent (leaf event)
  | element {parent : Option Tag} {tag : Tag} {content : List EventTree} :
      parent.all (·.admits (.start tag)) = true → (∀ t ∈ content, Nested (some tag) t) →
        Nested parent (element tag content)

/-- A forest whose trees stand in no element and that spells the events. -/
structure Spells (forest : List EventTree) (events : List Event) : Prop where
  nested : ∀ t ∈ forest, Nested none t
  events_eq : eventsAll forest = events

theorem events_element (tag : Tag) (content : List EventTree) :
    (element tag content).events = .start tag :: (eventsAll content ++ [.finish tag.name]) := by
  rw [events, Tag.around]

@[simp] theorem eventsAll_nil : eventsAll [] = [] := by
  rw [eventsAll]

@[simp] theorem eventsAll_cons (t : EventTree) (ts : List EventTree) :
    eventsAll (t :: ts) = t.events ++ eventsAll ts := by
  rw [eventsAll]

theorem nestedIn_leaf {tags : List Tag} {event : Event} (h : event.isLeaf = true)
    (rest : List Event) :
    nestedIn tags (event :: rest) = (admitted tags event && nestedIn tags rest) := by
  cases event with
  | start tag => exact absurd h Bool.false_ne_true
  | finish name => exact absurd h Bool.false_ne_true
  | _ => cases tags <;> rfl

theorem nestedIn_finish (tag : Tag) (tags : List Tag) (rest : List Event) :
    nestedIn (tag :: tags) (.finish tag.name :: rest) = nestedIn tags rest := by
  rw [nestedIn, decide_eq_true rfl, Bool.true_and]

theorem nestedIn_eventsAll (tags : List Tag) {forest : List EventTree}
    (h : ∀ t ∈ forest, ∀ rest, nestedIn tags (t.events ++ rest) = nestedIn tags rest)
    (rest : List Event) : nestedIn tags (eventsAll forest ++ rest) = nestedIn tags rest := by
  induction forest with
  | nil => simp
  | cons t ts ih =>
    rw [eventsAll_cons, List.append_assoc, h t List.mem_cons_self]
    exact ih fun u hu => h u (List.mem_cons_of_mem t hu)

/-- The events of a nested tree leave the open elements as they were. -/
theorem nestedIn_events {parent : Option Tag} {t : EventTree} (h : Nested parent t)
    {tags : List Tag} (hparent : tags.head? = parent) (rest : List Event) :
    nestedIn tags (t.events ++ rest) = nestedIn tags rest := by
  induction h generalizing tags rest with
  | leaf hleaf hadmits =>
    rw [events, List.singleton_append, nestedIn_leaf hleaf, admitted, hparent, hadmits,
      Bool.true_and]
  | @element parent tag content hadmits _ ih =>
    have hcontent := nestedIn_eventsAll (tag :: tags)
      (fun t ht rest => ih t ht rfl rest) (.finish tag.name :: rest)
    rw [events_element, List.cons_append, List.append_assoc, List.singleton_append, nestedIn,
      admitted, hparent, hadmits, Bool.true_and, hcontent, nestedIn_finish]

/-- What is left of the events after those in the innermost open element. -/
def Closes : List Tag → List Event → Prop
  | [], rest => rest = []
  | tag :: tags, rest =>
    ∃ after, rest = .finish tag.name :: after ∧ nestedIn tags after = true

/-- The content of the innermost open element can be split off the events. -/
theorem exists_content (n : Nat) : ∀ {tags : List Tag} {events : List Event},
    events.length ≤ n → nestedIn tags events = true →
      ∃ content rest, (∀ t ∈ content, Nested tags.head? t) ∧
        events = eventsAll content ++ rest ∧ Closes tags rest := by
  induction n with
  | zero =>
    intro tags events hn h
    have hnil : events = [] := List.eq_nil_of_length_eq_zero (Nat.le_zero.mp hn)
    subst hnil
    rw [nestedIn, List.isEmpty_iff] at h
    subst h
    exact ⟨[], [], by simp, by simp, rfl⟩
  | succ n ih =>
    intro tags events hn h
    cases events with
    | nil =>
      rw [nestedIn, List.isEmpty_iff] at h
      subst h
      exact ⟨[], [], by simp, by simp, rfl⟩
    | cons event events =>
      have hlength : events.length ≤ n := by simpa using hn
      by_cases hleaf : event.isLeaf = true
      · rw [nestedIn_leaf hleaf, Bool.and_eq_true] at h
        obtain ⟨content, rest, hcontent, heq, hrest⟩ := ih hlength h.2
        refine ⟨leaf event :: content, rest, ?_, by simp [EventTree.events, heq], hrest⟩
        intro t ht
        rcases List.mem_cons.mp ht with rfl | ht
        · exact .leaf hleaf h.1
        · exact hcontent t ht
      · cases event with
        | start tag =>
          rw [nestedIn, Bool.and_eq_true] at h
          obtain ⟨inner, rest, hinner, heq, after, hrest, hafter⟩ := ih hlength h.2
          -- the events after the end of the element are fewer still
          have hshort : after.length ≤ n := by
            have hle := congrArg List.length heq
            rw [hrest] at hle
            simp at hle
            omega
          obtain ⟨content, rest', hcontent, heq', hrest'⟩ := ih hshort hafter
          refine ⟨element tag inner :: content, rest', ?_, ?_, hrest'⟩
          · intro t ht
            rcases List.mem_cons.mp ht with rfl | ht
            · exact .element h.1 hinner
            · exact hcontent t ht
          · rw [heq, hrest, heq', eventsAll_cons, events_element]
            simp
        | finish name =>
          cases tags with
          | nil => simp [nestedIn] at h
          | cons tag tags =>
            -- the content ends here, and the event is the end of the innermost element
            rw [nestedIn, Bool.and_eq_true, decide_eq_true_eq] at h
            exact ⟨[], .finish name :: events, by simp, by simp, events, by rw [h.1], h.2⟩
        | _ => exact absurd rfl hleaf

/-- The well nested lists are those that spell a forest. -/
theorem wellNested_iff {events : List Event} :
    WellNested events ↔ ∃ forest, Spells forest events := by
  constructor
  · intro h
    obtain ⟨forest, rest, hnested, heq, hrest⟩ := exists_content events.length (Nat.le_refl _) h
    rw [hrest, List.append_nil] at heq
    exact ⟨forest, hnested, heq.symm⟩
  · rintro ⟨forest, hnested, rfl⟩
    have h := nestedIn_eventsAll []
      (fun t ht rest => nestedIn_events (hnested t ht) rfl rest) []
    rw [List.append_nil] at h
    exact h

end EventTree

end MarkdownPreview
