import MarkdownPreview.Proofs.ListBoundary.Boundaries

/-!
Texts that are gone over one after the other, with the state carried on from each to the next. What
is not carried on is the line before: so going over two texts at once puts in what going over each
of them does, and one blank line more if there is a boundary between the two.
-/

namespace MarkdownPreview.ListBoundary

open Text

def firstLine (text : List Char) : Line := text.takeWhile (· != '\n')

def lastLine (text : List Char) : Line := (text.reverse.takeWhile (· != '\n')).reverse

/-- Two texts with a boundary between them: the first ends, outside of fences, in a line of text
that starts no list, and the second begins with a line that starts one. -/
structure Seam (inFence : Bool) (first second : List Char) : Prop where
  text_before : trim (lastLine first) ≠ []
  no_list_before : ListStart.startsList (trim (lastLine first)) = false
  list : ListStart.startsList (trim (firstLine second)) = true
  not_mark : ∀ mark ∈ fenceMarks, ¬mark.toList <+: trim (firstLine second)
  outside : inFence = false

theorem seam_iff {inFence : Bool} {first second : List Char} :
    Seam inFence first second ↔ isFenceLine (firstLine second) = false ∧ inFence = false ∧
      parts (lastLine first) (firstLine second) = true := by
  have hmark : isFenceLine (firstLine second) = false ↔
      ∀ mark ∈ fenceMarks, ¬mark.toList <+: trim (firstLine second) := by
    rw [← Bool.not_eq_true, isFenceLine_iff]
    simp
  have hparts : parts (lastLine first) (firstLine second) = true ↔
      trim (lastLine first) ≠ [] ∧ ListStart.startsList (trim (firstLine second)) = true ∧
        ListStart.startsList (trim (lastLine first)) = false := by
    simp only [parts, Bool.and_eq_true, Bool.not_eq_true', List.isEmpty_eq_false_iff, and_assoc]
  rw [hmark, hparts]
  constructor
  · rintro ⟨htext, hbefore, hlist, hmark, houtside⟩
    exact ⟨hmark, houtside, htext, hlist, hbefore⟩
  · rintro ⟨hmark, houtside, htext, hlist, hbefore⟩
    exact ⟨htext, hbefore, hlist, hmark, houtside⟩

instance (inFence : Bool) (first second : List Char) : Decidable (Seam inFence first second) :=
  decidable_of_iff' _ seam_iff

/-! ### The count -/

/-- The state with more lines counted. -/
def ahead (state : ListBoundary) (n : Nat) : ListBoundary :=
  { state with insertions := state.insertions + n }

/-- The count plays no part in what is put in, and goes on from where it is. -/
theorem step_ahead (state : ListBoundary) (n : Nat) (previous : Option Line) (line : Line) :
    (state.ahead n).step previous line =
      ((state.step previous line).1.ahead n, (state.step previous line).2) := by
  unfold step
  split
  · rfl
  · change (if state.inFence then _ else _) = _
    split
    · rfl
    · split
      · simp [ahead, Nat.add_right_comm]
      · rfl

theorem separateLines_ahead (state : ListBoundary) (n : Nat) (previous : Option Line)
    (lines : List Line) :
    (state.ahead n).separateLines previous lines =
      ((state.separateLines previous lines).1,
        (state.separateLines previous lines).2.ahead n) := by
  induction lines generalizing state previous with
  | nil => rfl
  | cons line rest ih => simp only [separateLines, step_ahead, ih]

/-! ### Lines after lines -/

theorem separateLines_append (state : ListBoundary) (previous : Option Line)
    (lines rest : List Line) :
    state.separateLines previous (lines ++ rest) =
      let (front, between) := state.separateLines previous lines
      let (back, last) := between.separateLines (lines.getLast?.or previous) rest
      (front ++ back, last) := by
  induction lines generalizing state previous with
  | nil => rfl
  | cons line lines ih =>
    have hprevious : lines.getLast?.or (some line) = (line :: lines).getLast?.or previous := by
      rw [List.getLast?_cons]
      cases lines.getLast? <;> rfl
    simp only [List.cons_append, separateLines, ih, hprevious, List.append_assoc]

/-- What the line before a line is good for: whether there is a boundary between the two. -/
theorem step_some (state : ListBoundary) (previous line : Line) :
    state.step (some previous) line =
      if isFenceLine line = false ∧ state.inFence = false ∧ parts previous line = true then
        (state.ahead 1, true)
      else state.step none line := by
  unfold step
  cases hfence : isFenceLine line with
  | true => simp
  | false =>
    cases hopen : state.inFence with
    | true => simp
    | false => cases hparts : parts previous line <;> simp [hopen, hparts, ahead]

/-- At a boundary, going on from a line puts one blank line more in front than starting afresh. -/
theorem separateLines_some (state : ListBoundary) (previous line : Line) (rest : List Line) :
    state.separateLines (some previous) (line :: rest) =
      if isFenceLine line = false ∧ state.inFence = false ∧ parts previous line = true then
        ([] :: (state.separateLines none (line :: rest)).1,
          (state.separateLines none (line :: rest)).2.ahead 1)
      else state.separateLines none (line :: rest) := by
  simp only [separateLines, step_some]
  split
  case isTrue h =>
    have hnone : state.step none line = (state, false) := by
      simp [step, h.1, h.2.1]
    simp [separateLines_ahead, hnone]
  case isFalse => rfl

/-! ### Texts after texts -/

section

variable {state between last : ListBoundary} {front back : List Line}

theorem ne_nil_of_separateLines {text : List Char}
    (h : state.separateLines none (splitAt '\n' text) = (front, last)) : front ≠ [] := by
  obtain ⟨line, rest, hlines⟩ := exists_splitAt_eq_cons '\n' text
  have hne : withBlanks state.inFence (splitAt '\n' text) ≠ [] := by
    apply withBlanks_ne_nil
    simp [hlines]
  rw [separateLines_eq] at h
  cases h
  exact hne

theorem separate_of_separateLines {text : String}
    (h : state.separateLines none (splitAt '\n' text.toList) = (front, last)) :
    state.separate text = (String.ofList (joinWith '\n' front), last) := by
  simp only [separate, h]

/-- The lines of two texts with a line end between them. -/
theorem separateLines_joined {a b : List Char}
    (ha : state.separateLines none (splitAt '\n' a) = (front, between))
    (hb : between.separateLines none (splitAt '\n' b) = (back, last)) :
    state.separateLines none (splitAt '\n' (a ++ '\n' :: b)) =
      if Seam between.inFence a b then (front ++ [] :: back, last.ahead 1)
      else (front ++ back, last) := by
  have hlast : (splitAt '\n' a).getLast? = some (lastLine a) := getLast?_splitAt '\n' a
  have hfirst : (splitAt '\n' b).head? = some (firstLine b) := head?_splitAt '\n' b
  obtain ⟨rest, hrest⟩ := List.head?_eq_some_iff.mp hfirst
  rw [hrest] at hb
  simp only [splitAt_append, separateLines_append, ha, hlast, Option.some_or, hrest,
    separateLines_some, hb]
  by_cases hseam : Seam between.inFence a b
  · simp only [if_pos hseam, if_pos (seam_iff.mp hseam)]
  · simp only [if_neg hseam, if_neg (hseam ∘ seam_iff.mpr)]

end

/-- From every state: two texts with a line end between them are gone over as one after the other
would be, with a blank line between the two if and only if there is a seam; this is then the one
line that is counted besides. -/
theorem separate_joined (state : ListBoundary) (a b : String) :
    let (first, between) := state.separate a
    let (second, last) := between.separate b
    state.separate (a ++ "\n" ++ b) =
      if Seam between.inFence a.toList b.toList then
        (first ++ "\n" ++ "\n" ++ second, ⟨last.inFence, last.insertions + 1⟩)
      else (first ++ "\n" ++ second, last) := by
  have htext : (a ++ "\n" ++ b).toList = a.toList ++ '\n' :: b.toList := by
    rw [String.toList_append, String.toList_append, List.append_assoc]
    rfl
  obtain ⟨⟨front, between⟩, ha⟩ :
      ∃ result, state.separateLines none (splitAt '\n' a.toList) = result := ⟨_, rfl⟩
  obtain ⟨⟨back, last⟩, hb⟩ :
      ∃ result, between.separateLines none (splitAt '\n' b.toList) = result := ⟨_, rfl⟩
  have hfront := ne_nil_of_separateLines ha
  have hback := ne_nil_of_separateLines hb
  have hjoined := separateLines_joined ha hb
  rw [← htext] at hjoined
  simp only [separate_of_separateLines ha, separate_of_separateLines hb]
  by_cases hseam : Seam between.inFence a.toList b.toList
  · rw [if_pos hseam] at hjoined
    have hjoin : joinWith '\n' (front ++ [] :: back) =
        joinWith '\n' front ++ '\n' :: '\n' :: joinWith '\n' back := by
      rw [joinWith_append '\n' hfront (List.cons_ne_nil _ _), joinWith_cons '\n' [] hback,
        List.nil_append]
    rw [if_pos hseam, separate_of_separateLines hjoined, hjoin]
    refine Prod.ext ?_ rfl
    rw [← String.toList_inj]
    simp
  · rw [if_neg hseam] at hjoined
    rw [if_neg hseam, separate_of_separateLines hjoined, joinWith_append '\n' hfront hback]
    refine Prod.ext ?_ rfl
    rw [← String.toList_inj]
    simp

end MarkdownPreview.ListBoundary
