import MarkdownPreview.Proofs.Text.Utf8
import MarkdownPreview.Text.Cut

/-!
Cuts between characters: each gives the part that it is asked for.
-/

namespace MarkdownPreview.Text

theorem ok_bind {ε α β : Type} (a : α) (f : α → Except ε β) : (Except.ok a >>= f) = f a := rfl

theorem length_encodeUtf8_toList (text : String) :
    (encodeUtf8 text.toList).length = text.utf8ByteSize := by
  rw [encodeUtf8, ← toList_toUTF8, Array.length_toList]
  rfl

theorem isValid_append (front back : String) :
    (String.Pos.Raw.mk front.utf8ByteSize).IsValid (front ++ back) :=
  String.Pos.Raw.isValid_iff_exists_append.mpr ⟨front, back, rfl, rfl⟩

theorem cut_append (front part back : String) :
    cut (front ++ part ++ back) front.utf8ByteSize (front ++ part).utf8ByteSize = .ok part := by
  have hstart : (String.Pos.Raw.mk front.utf8ByteSize).IsValid (front ++ part ++ back) := by
    rw [String.append_assoc]
    exact isValid_append front (part ++ back)
  have hstop := isValid_append (front ++ part) back
  have hle : front.utf8ByteSize ≤ (front ++ part).utf8ByteSize := by
    rw [String.utf8ByteSize_append]
    omega
  have hpart := @ByteArray.extract_append_size_add front.toByteArray
    (part.toByteArray ++ back.toByteArray) 0 part.toByteArray.size
  have hleft := @ByteArray.extract_append_eq_left part.toByteArray back.toByteArray _ rfl
  rw [Nat.add_zero] at hpart
  rw [cut, dif_pos ⟨hstart, hstop, hle⟩, Except.ok.injEq, ← String.toByteArray_inj,
    String.toByteArray_extract]
  dsimp only
  rw [String.append_assoc, String.toByteArray_append, String.toByteArray_append,
    String.utf8ByteSize_append, ← String.size_toByteArray, ← String.size_toByteArray]
  exact hpart.trans hleft

/-- The rest of a text. -/
theorem cut_rest (front rest : String) :
    cut (front ++ rest) front.utf8ByteSize (front ++ rest).utf8ByteSize = .ok rest := by
  have h := cut_append front rest ""
  rw [String.append_empty] at h
  exact h

end MarkdownPreview.Text
