import Mathlib.Logic.Function.Iterate
import MarkdownPreview.ListBoundary
import MarkdownPreview.Proofs.Text.Pieces

/-!
Where blank lines are put into a text. Whether one goes before a line is said by the lines alone and
the fence state that the text begins with, and this is all that a text is changed by.
-/

namespace MarkdownPreview.ListBoundary

open Text

/-- Whether the line after these is in a fence. Each fence line turns it over. -/
def fenceAfter (inFence : Bool) (lines : List Line) : Bool :=
  not^[lines.countP isFenceLine] inFence

/-- What opens and closes fenced code. -/
def fenceMarks : List String := ["```", "~~~"]

/-- A line that starts a list, outside of fences and right after a line of text that starts none. -/
structure BoundaryAt (inFence : Bool) (lines : List Line) (i : Nat) : Prop where
  pos : 0 < i
  not_mark : ∀ mark ∈ fenceMarks, ¬mark.toList <+: trim (lines.getD i [])
  outside : fenceAfter inFence (lines.take i) = false
  text_before : trim (lines.getD (i - 1) []) ≠ []
  no_list_before : ListStart.startsList (trim (lines.getD (i - 1) [])) = false
  list : ListStart.startsList (trim (lines.getD i [])) = true

theorem isFenceLine_iff {line : Line} :
    isFenceLine line = true ↔ ∃ mark ∈ fenceMarks, mark.toList <+: trim line := by
  have hticks : "```".toList = ['`', '`', '`'] := rfl
  have htildes : "~~~".toList = ['~', '~', '~'] := rfl
  simp only [fenceMarks, List.mem_cons, List.not_mem_nil, or_false, exists_eq_or_imp,
    exists_eq_left, hticks, htildes]
  unfold isFenceLine
  constructor
  · intro h
    split at h
    · exact .inl ⟨_, Eq.symm ‹_›⟩
    · exact .inr ⟨_, Eq.symm ‹_›⟩
    · cases h
  · rintro (⟨rest, h⟩ | ⟨rest, h⟩)
    · rw [← h]
      rfl
    · rw [← h]
      rfl

theorem boundaryAt_iff {inFence : Bool} {lines : List Line} {i : Nat} :
    BoundaryAt inFence lines i ↔ 0 < i ∧ isFenceLine (lines.getD i []) = false ∧
      fenceAfter inFence (lines.take i) = false ∧
      parts (lines.getD (i - 1) []) (lines.getD i []) = true := by
  have hmark : isFenceLine (lines.getD i []) = false ↔
      ∀ mark ∈ fenceMarks, ¬mark.toList <+: trim (lines.getD i []) := by
    rw [← Bool.not_eq_true, isFenceLine_iff]
    simp
  have hparts : parts (lines.getD (i - 1) []) (lines.getD i []) = true ↔
      trim (lines.getD (i - 1) []) ≠ [] ∧
        ListStart.startsList (trim (lines.getD i [])) = true ∧
        ListStart.startsList (trim (lines.getD (i - 1) [])) = false := by
    simp only [parts, Bool.and_eq_true, Bool.not_eq_true', List.isEmpty_eq_false_iff, and_assoc]
  rw [hmark, hparts]
  constructor
  · rintro ⟨hpos, hmark, houtside, htext, hbefore, hlist⟩
    exact ⟨hpos, hmark, houtside, htext, hlist, hbefore⟩
  · rintro ⟨hpos, hmark, houtside, htext, hlist, hbefore⟩
    exact ⟨hpos, hmark, houtside, htext, hbefore, hlist⟩

instance (inFence : Bool) (lines : List Line) (i : Nat) :
    Decidable (BoundaryAt inFence lines i) :=
  decidable_of_iff' _ boundaryAt_iff

/-- The lines with a blank one before each boundary. -/
def withBlanks (inFence : Bool) (lines : List Line) : List Line :=
  lines.zipIdx.flatMap fun (line, i) =>
    if BoundaryAt inFence lines i then [[], line] else [line]

/-! ### One line -/

theorem fenceAfter_concat (inFence : Bool) (lines : List Line) (line : Line) :
    fenceAfter inFence (lines ++ [line]) =
      if isFenceLine line then !fenceAfter inFence lines else fenceAfter inFence lines := by
  unfold fenceAfter
  rw [List.countP_append, List.countP_singleton]
  split
  · rw [Function.iterate_succ_apply']
  · rfl

/-- Whether a line that comes after others is at a boundary does not depend on what follows it. -/
theorem boundaryAt_length_iff {inFence : Bool} {before after : List Line} {line : Line} :
    BoundaryAt inFence (before ++ line :: after) before.length ↔
      isFenceLine line = false ∧ fenceAfter inFence before = false ∧
        before.getLast?.any (parts · line) = true := by
  rw [boundaryAt_iff]
  have hline : (before ++ line :: after).getD before.length [] = line := by simp
  have htake : (before ++ line :: after).take before.length = before := by simp
  rw [hline, htake]
  cases h : before.getLast? with
  | none =>
    obtain rfl := List.getLast?_eq_none_iff.mp h
    simp
  | some previous =>
    obtain ⟨front, rfl⟩ := List.getLast?_eq_some_iff.mp h
    have hprevious : (front ++ [previous] ++ line :: after).getD
        ((front ++ [previous]).length - 1) [] = previous := by
      simp
    rw [hprevious]
    simp

/-- One line: what is carried on, and whether it is at a boundary. -/
theorem step_getLast? (inFence : Bool) (before after : List Line) (line : Line) (n : Nat) :
    step ⟨fenceAfter inFence before, n⟩ before.getLast? line =
      (⟨fenceAfter inFence (before ++ [line]),
          n + if BoundaryAt inFence (before ++ line :: after) before.length then 1 else 0⟩,
        decide (BoundaryAt inFence (before ++ line :: after) before.length)) := by
  simp only [fenceAfter_concat, boundaryAt_length_iff, step]
  cases hfence : isFenceLine line with
  | true => simp
  | false =>
    cases hopen : fenceAfter inFence before with
    | true => simp
    | false => cases hparts : before.getLast?.any (parts · line) <;> simp

/-! ### All lines -/

/-- The lines after some that are done already. The numbers of lines go on from those. -/
theorem separateLines_getLast? (inFence : Bool) (before rest : List Line) (n : Nat) :
    separateLines ⟨fenceAfter inFence before, n⟩ before.getLast? rest =
      ((rest.zipIdx before.length).flatMap fun (line, i) =>
          if BoundaryAt inFence (before ++ rest) i then [[], line] else [line],
        ⟨fenceAfter inFence (before ++ rest), n + (List.range' before.length rest.length).countP
          (BoundaryAt inFence (before ++ rest) ·)⟩) := by
  induction rest generalizing before n with
  | nil => simp [separateLines]
  | cons line rest ih =>
    have hlines : before ++ line :: rest = before ++ [line] ++ rest := by simp
    have hlast : (before ++ [line]).getLast? = some line := by simp
    have hlength : (before ++ [line]).length = before.length + 1 := by simp
    have hrest := ih (before ++ [line])
      (n + if BoundaryAt inFence (before ++ line :: rest) before.length then 1 else 0)
    rw [hlast, hlength, ← hlines] at hrest
    simp only [separateLines, step_getLast? inFence before rest line n, hrest, List.zipIdx_cons,
      List.flatMap_cons, List.length_cons, List.range'_succ, List.countP_cons, decide_eq_true_eq]
    congr 2
    omega

theorem separateLines_eq (state : ListBoundary) (lines : List Line) :
    state.separateLines none lines =
      (withBlanks state.inFence lines,
        ⟨fenceAfter state.inFence lines, state.insertions +
          (List.range lines.length).countP (BoundaryAt state.inFence lines ·)⟩) := by
  rw [List.range_eq_range']
  exact separateLines_getLast? state.inFence [] lines state.insertions

theorem mem_of_mem_withBlanks {inFence : Bool} {lines : List Line} {line : Line}
    (h : line ∈ withBlanks inFence lines) : line = [] ∨ line ∈ lines := by
  obtain ⟨⟨found, i⟩, hmem, hline⟩ := List.mem_flatMap.mp h
  have hfound : found ∈ lines := List.fst_mem_of_mem_zipIdx hmem
  dsimp only at hline
  split at hline
  · rcases List.mem_cons.mp hline with rfl | hline
    · exact .inl rfl
    · exact .inr (List.mem_singleton.mp hline ▸ hfound)
  · exact .inr (List.mem_singleton.mp hline ▸ hfound)

theorem withBlanks_ne_nil {inFence : Bool} {lines : List Line} (h : lines ≠ []) :
    withBlanks inFence lines ≠ [] := by
  obtain ⟨line, lines, rfl⟩ := List.exists_cons_of_ne_nil h
  have hfirst : (if BoundaryAt inFence (line :: lines) 0 then [[], line] else [line]) ≠ [] := by
    split <;> simp
  unfold withBlanks
  rw [List.zipIdx_cons, List.flatMap_cons]
  exact List.append_ne_nil_of_left_ne_nil hfirst _

/-- The lines that are put together are those of the text that results. -/
theorem splitAt_withBlanks (inFence : Bool) (text : List Char) :
    splitAt '\n' (joinWith '\n' (withBlanks inFence (splitAt '\n' text))) =
      withBlanks inFence (splitAt '\n' text) := by
  refine splitAt_joinWith (withBlanks_ne_nil ?_) fun line hline => ?_
  · obtain ⟨line, lines, hlines⟩ := exists_splitAt_eq_cons '\n' text
    simp [hlines]
  · rcases mem_of_mem_withBlanks hline with rfl | hmem
    · exact List.not_mem_nil
    · exact not_mem_of_mem_splitAt hmem

/-- From every fence state and every count: the lines of a text come out as they are and in order,
with one blank line before each boundary and nowhere else; the count grows by the number of
boundaries, and the fence state is turned over once for each fence line. -/
theorem lines_separate (state : ListBoundary) (text : String) :
    let lines := splitAt '\n' text.toList
    splitAt '\n' (state.separate text).1.toList =
        lines.zipIdx.flatMap (fun (line, i) =>
          if BoundaryAt state.inFence lines i then [[], line] else [line]) ∧
      (state.separate text).2.insertions = state.insertions +
        (List.range lines.length).countP (BoundaryAt state.inFence lines ·) ∧
      (state.separate text).2.inFence = fenceAfter state.inFence lines := by
  intro lines
  have hlines := separateLines_eq state lines
  have htext : (state.separate text).1 =
      String.ofList (joinWith '\n' (withBlanks state.inFence lines)) :=
    congrArg (fun r : List Line × ListBoundary => String.ofList (joinWith '\n' r.1)) hlines
  refine ⟨?_, congrArg (·.2.insertions) hlines, congrArg (·.2.inFence) hlines⟩
  rw [htext, String.toList_ofList]
  exact splitAt_withBlanks state.inFence text.toList

end MarkdownPreview.ListBoundary
