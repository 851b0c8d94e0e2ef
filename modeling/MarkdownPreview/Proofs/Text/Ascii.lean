import MarkdownPreview.Text.Utf8

/-!
ASCII in UTF-8. A character below 128 is one byte, and that is its number; the bytes of all other
characters are 128 or more. So what is looked for byte by byte is found where its characters are.
-/

namespace MarkdownPreview.Text

@[simp] theorem encodeUtf8_nil : encodeUtf8 [] = [] := rfl

@[simp] theorem encodeUtf8_cons (c : Char) (cs : List Char) :
    encodeUtf8 (c :: cs) = String.utf8EncodeChar c ++ encodeUtf8 cs := by
  simp [encodeUtf8]

@[simp] theorem encodeUtf8_append (cs ds : List Char) :
    encodeUtf8 (cs ++ ds) = encodeUtf8 cs ++ encodeUtf8 ds := by
  simp [encodeUtf8]

@[simp] theorem encodeUtf8_eq_nil_iff {cs : List Char} : encodeUtf8 cs = [] ↔ cs = [] := by
  cases cs with
  | nil => simp
  | cons c cs => simp [String.utf8EncodeChar_ne_nil]

/-! ### One character -/

theorem utf8EncodeChar_of_lt {c : Char} (h : c.toNat < 128) :
    String.utf8EncodeChar c = [c.toUInt8] := by
  have hone : c.val.toNat ≤ 127 := Nat.le_of_lt_succ h
  simp only [String.utf8EncodeChar, hone, if_true]
  rfl

theorem le_toNat_of_mem_utf8EncodeChar {c : Char} (h : 128 ≤ c.toNat) {b : UInt8}
    (hb : b ∈ String.utf8EncodeChar c) : 128 ≤ b.toNat := by
  have hmany : ¬c.val.toNat ≤ 127 := Nat.not_le.mpr h
  simp only [String.utf8EncodeChar, hmany, if_false] at hb
  generalize c.val.toNat = n at hb
  -- leading bytes begin at 192, and all others are between 128 and 191
  split at hb
  case isTrue =>
    simp only [List.mem_cons, List.not_mem_nil, or_false] at hb
    rcases hb with rfl | rfl
    all_goals rw [UInt8.toNat_ofNat']; omega
  case isFalse =>
    split at hb
    all_goals
      simp only [List.mem_cons, List.not_mem_nil, or_false] at hb
      rcases hb with rfl | rfl | rfl | rfl
      all_goals rw [UInt8.toNat_ofNat']; omega

theorem toNat_toUInt8 {c : Char} (h : c.toNat < 128) : c.toUInt8.toNat = c.toNat := by
  have hmod : c.toUInt8.toNat = c.toNat % 2 ^ 8 := UInt32.toNat_toUInt8 c.val
  omega

theorem ofUInt8_toUInt8 {c : Char} (h : c.toNat < 128) : Char.ofUInt8 c.toUInt8 = c := by
  apply Char.toNat_inj.mp
  exact toNat_toUInt8 h

/-! ### Texts -/

/-- A class that has ASCII characters only. -/
def IsAscii (p : Char → Bool) : Prop := ∀ c, p c = true → c.toNat < 128

theorem isAscii_isAlphanum : IsAscii Char.isAlphanum := by
  intro c hc
  have hcases : ((c.isUpper || c.isLower) || c.isDigit) = true := hc
  rw [Bool.or_eq_true, Bool.or_eq_true] at hcases
  rcases hcases with (hupper | hlower) | hdigit
  · have hle : c.val ≤ 'Z'.val := (of_decide_eq_true hupper).2
    exact Nat.lt_of_le_of_lt hle (by decide)
  · have hle : c.val ≤ 'z'.val := of_decide_eq_true ((Bool.and_eq_true _ _).mp hlower).2
    exact Nat.lt_of_le_of_lt hle (by decide)
  · have hle : c.val ≤ '9'.val := of_decide_eq_true ((Bool.and_eq_true _ _).mp hdigit).2
    exact Nat.lt_of_le_of_lt hle (by decide)

theorem isAscii_isDigit : IsAscii Char.isDigit := by
  intro c hc
  apply isAscii_isAlphanum
  rw [Char.isAlphanum, hc, Bool.or_true]

variable {p : Char → Bool} {cs : List Char} {b : UInt8} {bytes : List UInt8}

/-- The first byte of a character that is not ASCII. -/
theorem exists_utf8EncodeChar_eq_cons {c : Char} (h : 128 ≤ c.toNat) :
    ∃ first others, String.utf8EncodeChar c = first :: others ∧ 128 ≤ first.toNat := by
  cases hbytes : String.utf8EncodeChar c with
  | nil =>
    have hlength := String.length_utf8EncodeChar c
    have hpos := Char.utf8Size_pos c
    rw [hbytes, List.length_nil] at hlength
    omega
  | cons first others =>
    refine ⟨first, others, rfl, le_toNat_of_mem_utf8EncodeChar h ?_⟩
    simp [hbytes]

/-- A byte below 128 is a character. -/
theorem exists_of_encodeUtf8_eq_cons (hb : b.toNat < 128) (h : encodeUtf8 cs = b :: bytes) :
    ∃ rest, cs = Char.ofUInt8 b :: rest ∧ encodeUtf8 rest = bytes := by
  cases cs with
  | nil => cases h
  | cons c rest =>
    rw [encodeUtf8_cons] at h
    by_cases hc : c.toNat < 128
    · rw [utf8EncodeChar_of_lt hc] at h
      obtain ⟨rfl, htail⟩ := List.cons.inj h
      exact ⟨rest, by rw [ofUInt8_toUInt8 hc], htail⟩
    · obtain ⟨first, others, hbytes, hfirst⟩ := exists_utf8EncodeChar_eq_cons (Nat.not_lt.mp hc)
      rw [hbytes] at h
      obtain ⟨rfl, -⟩ := List.cons.inj h
      omega

theorem encodeUtf8_eq_cons_iff {c : Char} (h : c.toNat < 128) :
    encodeUtf8 cs = c.toUInt8 :: bytes ↔ ∃ rest, cs = c :: rest ∧ encodeUtf8 rest = bytes := by
  constructor
  · intro hcs
    have hbyte : c.toUInt8.toNat < 128 := by
      rw [toNat_toUInt8 h]
      exact h
    obtain ⟨rest, hrest, hbytes⟩ := exists_of_encodeUtf8_eq_cons hbyte hcs
    rw [ofUInt8_toUInt8 h] at hrest
    exact ⟨rest, hrest, hbytes⟩
  · rintro ⟨rest, rfl, rfl⟩
    rw [encodeUtf8_cons, utf8EncodeChar_of_lt h, List.singleton_append]

theorem takeWhile_encodeUtf8 (h : IsAscii p) (cs : List Char) :
    (encodeUtf8 cs).takeWhile (fun b => p (Char.ofUInt8 b)) = encodeUtf8 (cs.takeWhile p) := by
  induction cs with
  | nil => rfl
  | cons c cs ih =>
    rw [encodeUtf8_cons]
    by_cases hc : c.toNat < 128
    · rw [utf8EncodeChar_of_lt hc, List.singleton_append, List.takeWhile_cons, List.takeWhile_cons,
        ofUInt8_toUInt8 hc, ih]
      split
      · rw [encodeUtf8_cons, utf8EncodeChar_of_lt hc, List.singleton_append]
      · rfl
    · -- neither the character nor its first byte is in the class
      obtain ⟨first, others, hbytes, hfirst⟩ := exists_utf8EncodeChar_eq_cons (Nat.not_lt.mp hc)
      have hchar : ¬p c = true := fun hp => hc (h c hp)
      have hbyte : ¬p (Char.ofUInt8 first) = true := fun hp => Nat.not_lt.mpr hfirst (h _ hp)
      rw [hbytes, List.cons_append, List.takeWhile_cons, if_neg hbyte, List.takeWhile_cons,
        if_neg hchar]
      rfl

theorem dropWhile_encodeUtf8 (h : IsAscii p) (cs : List Char) :
    (encodeUtf8 cs).dropWhile (fun b => p (Char.ofUInt8 b)) = encodeUtf8 (cs.dropWhile p) := by
  have hsplit : encodeUtf8 (cs.takeWhile p) ++ encodeUtf8 (cs.dropWhile p) = encodeUtf8 cs := by
    rw [← encodeUtf8_append, List.takeWhile_append_dropWhile]
  have hbytes := List.takeWhile_append_dropWhile
    (p := fun b => p (Char.ofUInt8 b)) (l := encodeUtf8 cs)
  rw [takeWhile_encodeUtf8 h, ← hsplit] at hbytes
  rw [← hsplit]
  exact List.append_cancel_left hbytes

theorem toUInt8_mem_encodeUtf8_iff {c : Char} (h : c.toNat < 128) :
    c.toUInt8 ∈ encodeUtf8 cs ↔ c ∈ cs := by
  rw [encodeUtf8, List.mem_flatMap]
  constructor
  · rintro ⟨d, hd, hbyte⟩
    by_cases hascii : d.toNat < 128
    · rw [utf8EncodeChar_of_lt hascii, List.mem_singleton] at hbyte
      rw [← ofUInt8_toUInt8 h, hbyte, ofUInt8_toUInt8 hascii]
      exact hd
    · have hlarge := le_toNat_of_mem_utf8EncodeChar (Nat.not_lt.mp hascii) hbyte
      rw [toNat_toUInt8 h] at hlarge
      omega
  · intro hmem
    refine ⟨c, hmem, ?_⟩
    rw [utf8EncodeChar_of_lt h]
    exact List.mem_singleton_self _

/-! ### Places -/

theorem idxOf?_append_cons_self {before : List UInt8} (h : b ∉ before) (after : List UInt8) :
    (before ++ b :: after).idxOf? b = some before.length := by
  induction before with
  | nil => simp [List.idxOf?_cons]
  | cons a before ih =>
    simp only [List.mem_cons, not_or] at h
    have hne : ¬(a == b) = true := fun heq => h.1 (beq_iff_eq.mp heq).symm
    rw [List.cons_append, List.idxOf?_cons, if_neg hne, ih h.2]
    rfl

/-- The place of the first ASCII character of a kind. -/
theorem idxOf?_encodeUtf8_append {c : Char} (hc : c.toNat < 128) {before : List Char}
    (h : c ∉ before) (after : List Char) :
    (encodeUtf8 (before ++ c :: after)).idxOf? c.toUInt8 = some (encodeUtf8 before).length := by
  have hbytes : c.toUInt8 ∉ encodeUtf8 before := by
    rw [toUInt8_mem_encodeUtf8_iff hc]
    exact h
  rw [encodeUtf8_append, encodeUtf8_cons, utf8EncodeChar_of_lt hc, List.singleton_append]
  exact idxOf?_append_cons_self hbytes _

theorem idxOf?_encodeUtf8_eq_none_iff {c : Char} (hc : c.toNat < 128) :
    (encodeUtf8 cs).idxOf? c.toUInt8 = none ↔ c ∉ cs := by
  rw [List.idxOf?_eq_none_iff, toUInt8_mem_encodeUtf8_iff hc]

/-- The byte at which a rest of a text begins is an ASCII character if the rest begins with it. -/
theorem getElem?_encodeUtf8_append_eq_iff {c : Char} (hc : c.toNat < 128)
    (front rest : List Char) :
    (encodeUtf8 (front ++ rest))[(encodeUtf8 front).length]? = some c.toUInt8 ↔
      ∃ after, rest = c :: after := by
  rw [encodeUtf8_append, List.getElem?_append_right (Nat.le_refl _), Nat.sub_self,
    ← List.head?_eq_getElem?, List.head?_eq_some_iff]
  constructor
  · rintro ⟨bytes, hbytes⟩
    obtain ⟨after, hrest, -⟩ := (encodeUtf8_eq_cons_iff hc).mp hbytes
    exact ⟨after, hrest⟩
  · rintro ⟨after, rfl⟩
    exact ⟨_, (encodeUtf8_eq_cons_iff hc).mpr ⟨after, rfl, rfl⟩⟩

end MarkdownPreview.Text
