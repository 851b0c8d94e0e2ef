/-!
Parts of a text by the bytes that they begin and end at. A part begins and ends between two
characters of the text, or at an end of it.
-/

namespace MarkdownPreview.Text

/-- A part was asked for that begins or ends inside of a character or beyond the text, or ends
before it begins. -/
structure BadCut where
  start : Nat
  stop : Nat
  deriving DecidableEq, Repr

/-- The part of a text from one byte up to another. -/
def cut (text : String) (start stop : Nat) : Except BadCut String :=
  if h : (String.Pos.Raw.mk start).IsValid text ∧ (String.Pos.Raw.mk stop).IsValid text ∧
      start ≤ stop then
    .ok (text.extract ⟨_, h.1⟩ ⟨_, h.2.1⟩)
  else .error ⟨start, stop⟩

theorem utf8ByteSize_of_cut {text part : String} {start stop : Nat}
    (h : cut text start stop = .ok part) : part.utf8ByteSize = stop - start := by
  unfold cut at h
  split at h
  case isTrue hvalid =>
    cases h
    have hstop : stop ≤ text.utf8ByteSize := hvalid.2.1.le_rawEndPos
    rw [String.utf8ByteSize, String.toByteArray_extract, ByteArray.size_extract,
      String.size_toByteArray]
    dsimp only
    rw [Nat.min_eq_left hstop]
  case isFalse => cases h

end MarkdownPreview.Text
