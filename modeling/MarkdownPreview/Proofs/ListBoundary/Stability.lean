import MarkdownPreview.Preview
import MarkdownPreview.Proofs.ListBoundary.Boundaries
import MarkdownPreview.Proofs.Text.Utf8

/-!
A text with its list boundaries set off stays as it is when they are set off again, and so a
preview of it is that of the text it was made from, however markdown is read and code highlighted.
-/

namespace MarkdownPreview

open Text

namespace ListBoundary

/-! ### A second pass -/

/-- No blank line is put before a blank line, and it leaves the state as it is. -/
theorem step_blank (state : ListBoundary) (previous : Option Line) :
    state.step previous [] = (state, false) := by
  have hparts : previous.any (parts · []) = false := by
    cases previous with
    | none => rfl
    | some line => simp [parts, show ListStart.startsList (trim []) = false from rfl]
  have hfence : isFenceLine [] = false := rfl
  simp [step, hparts, hfence]

/-- After a blank line there is no boundary. -/
theorem step_after_blank {state : ListBoundary} {line : Line} (hfence : isFenceLine line = false) :
    state.step (some []) line = (state, false) := by
  have hparts : parts [] line = false := rfl
  simp [step, hfence, hparts]

/-- The count plays no part where no line is put in. -/
theorem step_of_not_blank {state state' : ListBoundary} {previous : Option Line} {line : Line}
    (h : state.step previous line = (state', false)) (n : Nat) :
    step ⟨state.inFence, n⟩ previous line = (⟨state'.inFence, n⟩, false) := by
  unfold step at h ⊢
  split at h
  case isTrue hfence =>
    cases h
    simp [hfence]
  case isFalse hfence =>
    split at h
    case isTrue hopen =>
      cases h
      simp [hfence, hopen]
    case isFalse hopen =>
      split at h
      case isTrue => cases h
      case isFalse hparts =>
        cases h
        simp [hfence, hopen, hparts]

/-- A line is put in before lines that are no fence lines, and keeps the fence state. -/
theorem of_step_blank {state state' : ListBoundary} {previous : Option Line} {line : Line}
    (h : state.step previous line = (state', true)) :
    isFenceLine line = false ∧ state'.inFence = state.inFence := by
  unfold step at h
  split at h
  case isTrue => cases h
  case isFalse hfence =>
    rw [Bool.not_eq_true] at hfence
    split at h
    case isTrue => cases h
    case isFalse =>
      split at h
      case isTrue =>
        cases h
        exact ⟨hfence, rfl⟩
      case isFalse => cases h

/-- Lines that were gone over once stay as they are, and lead to the same fence state. -/
theorem separateLines_separateLines (state : ListBoundary) (previous : Option Line)
    (lines : List Line) (n : Nat) :
    separateLines ⟨state.inFence, n⟩ previous (state.separateLines previous lines).1 =
      ((state.separateLines previous lines).1,
        ⟨(state.separateLines previous lines).2.inFence, n⟩) := by
  induction lines generalizing state previous with
  | nil => rfl
  | cons line rest ih =>
    obtain ⟨⟨state', blank⟩, hstep⟩ : ∃ result, state.step previous line = result := ⟨_, rfl⟩
    have hrest := ih state' (some line)
    cases blank with
    | false =>
      simp only [separateLines, hstep, Bool.false_eq_true, if_false, List.singleton_append,
        step_of_not_blank hstep, hrest]
    | true =>
      -- the second pass meets the blank line first, and finds no boundary after it
      obtain ⟨hfence, hsame⟩ := of_step_blank hstep
      rw [hsame] at hrest
      simp only [separateLines, hstep, if_true, List.cons_append, List.nil_append, step_blank,
        step_after_blank hfence, Bool.false_eq_true, if_false, hrest]

theorem separate_separate (state : ListBoundary) (text : String) (n : Nat) :
    separate ⟨state.inFence, n⟩ (state.separate text).1 =
      ((state.separate text).1, ⟨(state.separate text).2.inFence, n⟩) := by
  have hlines : splitAt '\n' (joinWith '\n'
      (state.separateLines none (splitAt '\n' text.toList)).1) =
      (state.separateLines none (splitAt '\n' text.toList)).1 := by
    rw [separateLines_eq]
    exact splitAt_withBlanks state.inFence text.toList
  simp only [separate, String.toList_ofList, hlines, separateLines_separateLines]

theorem normalize_normalize (text : String) : normalize (normalize text) = normalize text := by
  have hagain := separate_separate {} text 0
  exact (congrArg Prod.fst hagain :)

end ListBoundary

/-! ### Previews -/

namespace Preview

open ListBoundary

theorem document_normalize (kit : Toolkit) (text : String) :
    document kit (normalize text).toUTF8.data.toList = document kit text.toUTF8.data.toList := by
  simp only [document, decodeLossy_toUTF8, normalize_normalize]

/-- From every fence state and every two counts: going over the result of a first pass changes
nothing, puts in no line and ends in the same fence state as the first pass did. So a text and its
normal form have the same HTML, for every reader of markdown and every highlighter. -/
theorem separate_stable_and_toHtml_normalize :
    (∀ (inFence : Bool) (n m : Nat) (text : String),
      let (output, after) := separate ⟨inFence, n⟩ text
      separate ⟨inFence, m⟩ output = (output, ⟨after.inFence, m⟩)) ∧
    ∀ (kit : Toolkit) (theme text : String),
      toHtml kit theme (normalize text).toUTF8.data.toList =
        toHtml kit theme text.toUTF8.data.toList := by
  refine ⟨fun inFence n m text => separate_separate ⟨inFence, n⟩ text m, fun kit theme text => ?_⟩
  rw [toHtml, renderTo, document_normalize]
  rfl

end Preview

end MarkdownPreview
