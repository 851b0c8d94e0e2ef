import MarkdownPreview.Text.Alphanumeric
import MarkdownPreview.Text.LowerCase
import MarkdownPreview.Text.WhiteSpace

/-!
What the tables say of letters and numbers: white space is neither, and the small letters of an
alphanumeric character are at least one, and no dashes.
-/

namespace MarkdownPreview.Text

/-- The code points of the white-space characters. -/
def whiteSpaceCodes : List Nat :=
  [0x09, 0x0A, 0x0B, 0x0C, 0x0D, 0x20, 0x85, 0xA0, 0x1680, 0x2000, 0x2001, 0x2002, 0x2003, 0x2004,
   0x2005, 0x2006, 0x2007, 0x2008, 0x2009, 0x200A, 0x2028, 0x2029, 0x202F, 0x205F, 0x3000]

theorem toNat_mem_whiteSpaceCodes {c : Char} (h : isWhiteSpace c) :
    c.toNat ∈ whiteSpaceCodes := by
  simp only [isWhiteSpace, Bool.or_eq_true, Bool.and_eq_true, decide_eq_true_eq, beq_iff_eq] at h
  simp only [whiteSpaceCodes, List.mem_cons, List.not_mem_nil, or_false]
  omega

theorem isAlphanumeric_of_isWhiteSpace {c : Char} (h : isWhiteSpace c) :
    isAlphanumeric c = false := by
  have hnone : ∀ n ∈ whiteSpaceCodes, isAlphanumeric (Char.ofNat n) = false := by
    decide +kernel
  have hc := hnone _ (toNat_mem_whiteSpaceCodes h)
  rwa [Char.ofNat_toNat] at hc

theorem lowerCase_ne_nil (c : Char) : lowerCase c ≠ [] := by
  unfold lowerCase
  split
  · exact List.cons_ne_nil _ _
  · split <;> exact List.cons_ne_nil _ _

theorem eq_of_ofNat_eq {n : Nat} {c : Char} (h : Char.ofNat n = c) (hc : c ≠ '\x00') :
    n = c.toNat := by
  by_cases hn : n.isValidChar
  · rw [← h, Char.ofNat, dif_pos hn]
    rfl
  · rw [Char.ofNat, dif_neg hn] at h
    exact absurd h.symm hc

/-- The images in the table are all beyond the dash. -/
theorem dash_lt_apply {n : Nat} (h : 0x80 ≤ n) : 0x2D < CaseRun.apply lowerCaseRuns n := by
  have himages : ∀ run ∈ lowerCaseRuns, 0x2D < run.image := by decide +kernel
  unfold CaseRun.apply
  split
  case h_1 run hrun =>
    have himage := himages run (List.mem_of_find?_eq_some hrun)
    omega
  case h_2 => omega

theorem dash_not_mem_lowerCase {c : Char} (h : isAlphanumeric c) : '-' ∉ lowerCase c := by
  unfold lowerCase
  split
  case isTrue hascii =>
    have hlower : ∀ n < 0x80, isAlphanumeric (Char.ofNat n) → (Char.ofNat n).toLower ≠ '-' := by
      decide +kernel
    have hc := hlower c.toNat hascii
    rw [Char.ofNat_toNat] at hc
    exact fun hmem => hc h (List.mem_singleton.mp hmem).symm
  case isFalse hascii =>
    split
    · decide
    · intro hmem
      have happly := eq_of_ofNat_eq (List.mem_singleton.mp hmem).symm (by decide)
      exact absurd happly (Nat.ne_of_gt (dash_lt_apply (by omega)))

end MarkdownPreview.Text
