import MarkdownPreview.Text.Utf8

/-!
Reading the UTF-8 of a text gives the text: no part of it is faulty.
-/

namespace MarkdownPreview.Text

namespace Utf8Reader

variable {done : List (Option Char)} {low high bits n : Nat} {b : UInt8}

theorem readFirst_of_lead {start : Unfinished} (hn : 0x80 ≤ n) (h : lead? n = some start) :
    readFirst done n = ⟨done, some start⟩ := by
  have hge : ¬n < 0x80 := by omega
  simp only [readFirst, hge, if_false, h]

/-- The last byte of a character. -/
theorem read_last (hlow : low ≤ b.toNat) (hhigh : b.toNat ≤ high) :
    read ⟨done, some ⟨1, low, high, bits⟩⟩ b =
      ⟨some (Char.ofNat (bits * 0x40 + b.toNat % 0x40)) :: done, none⟩ := by
  simp [read, hlow, hhigh]

/-- A byte after which the character goes on. -/
theorem read_inner (k : Nat) (hlow : low ≤ b.toNat) (hhigh : b.toNat ≤ high) :
    read ⟨done, some ⟨k + 2, low, high, bits⟩⟩ b =
      ⟨done, some ⟨k + 1, 0x80, 0xBF, bits * 0x40 + b.toNat % 0x40⟩⟩ := by
  simp [read, hlow, hhigh]

theorem toNat_ofNat_of_lt (h : n < 256) : (UInt8.ofNat n).toNat = n := by
  rw [UInt8.toNat_ofNat', Nat.mod_eq_of_lt h]

end Utf8Reader

open Utf8Reader

/-! ### First bytes -/

theorem lead?_of_two {n : Nat} (hlow : 0xC2 ≤ n) (hhigh : n < 0xE0) :
    lead? n = some ⟨1, 0x80, 0xBF, n % 0x20⟩ := by
  have hge : ¬n < 0xC2 := by omega
  simp only [lead?, hge, if_false, hhigh, if_true]

/-- The first of three bytes, with the bounds that it sets to the second. A second byte below
`0xA0` would spell a character of fewer bytes, and one from there on a surrogate. -/
theorem exists_lead?_of_three {n second : Nat} (hlow : 0xE0 ≤ n) (hhigh : n < 0xF0)
    (hshort : n = 0xE0 → 0xA0 ≤ second) (hsurrogate : n = 0xED → second ≤ 0x9F)
    (hsecond : 0x80 ≤ second ∧ second ≤ 0xBF) :
    ∃ low high, lead? n = some ⟨2, low, high, n % 0x10⟩ ∧ low ≤ second ∧ second ≤ high := by
  have hge : ¬n < 0xC2 := by omega
  have htwo : ¬n < 0xE0 := by omega
  simp only [lead?, hge, htwo, if_false]
  by_cases hfirst : n = 0xE0
  · exact ⟨0xA0, 0xBF, by simp [hfirst], hshort hfirst, hsecond.2⟩
  · by_cases hed : n = 0xED
    · exact ⟨0x80, 0x9F, by simp [hed], hsecond.1, hsurrogate hed⟩
    · exact ⟨0x80, 0xBF, by simp [hfirst, hed, hhigh], hsecond.1, hsecond.2⟩

/-- The first of four bytes, with the bounds that it sets to the second. -/
theorem exists_lead?_of_four {n second : Nat} (hlow : 0xF0 ≤ n) (hhigh : n ≤ 0xF4)
    (hshort : n = 0xF0 → 0x90 ≤ second) (hlarge : n = 0xF4 → second ≤ 0x8F)
    (hsecond : 0x80 ≤ second ∧ second ≤ 0xBF) :
    ∃ low high, lead? n = some ⟨3, low, high, n % 0x08⟩ ∧ low ≤ second ∧ second ≤ high := by
  have hge : ¬n < 0xC2 := by omega
  have htwo : ¬n < 0xE0 := by omega
  have hthree : ¬n < 0xF0 := by omega
  have hne : n ≠ 0xE0 ∧ n ≠ 0xED := by omega
  simp only [lead?, hge, htwo, hthree, hne.1, hne.2, if_false]
  by_cases hfirst : n = 0xF0
  · exact ⟨0x90, 0xBF, by simp [hfirst], hshort hfirst, hsecond.2⟩
  · by_cases hlast : n = 0xF4
    · exact ⟨0x80, 0x8F, by simp [hlast], hsecond.1, hlarge hlast⟩
    · have hlt : n < 0xF4 := by omega
      exact ⟨0x80, 0xBF, by simp [hfirst, hlt], hsecond.1, hsecond.2⟩

/-! ### Characters and texts -/

theorem read_unstarted (done : List (Option Char)) (b : UInt8) :
    read ⟨done, none⟩ b = readFirst done b.toNat := rfl

theorem foldl_read_one (done : List (Option Char)) {n : Nat} (h : n < 0x80) :
    [UInt8.ofNat n].foldl read ⟨done, none⟩ = ⟨some (Char.ofNat n) :: done, none⟩ := by
  rw [List.foldl_cons, List.foldl_nil, read_unstarted, toNat_ofNat_of_lt (by omega), readFirst,
    if_pos h]

theorem foldl_read_two (done : List (Option Char)) {n : Nat} (hlow : 0x80 ≤ n) (hhigh : n < 0x800) :
    [UInt8.ofNat (n / 64 % 32 + 192), UInt8.ofNat (n % 64 + 128)].foldl read ⟨done, none⟩ =
      ⟨some (Char.ofNat n) :: done, none⟩ := by
  have hlead : lead? (n / 64 % 32 + 192) = _ := lead?_of_two (by omega) (by omega)
  have hfirst : (UInt8.ofNat (n / 64 % 32 + 192)).toNat = n / 64 % 32 + 192 :=
    toNat_ofNat_of_lt (by omega)
  have hlast : (UInt8.ofNat (n % 64 + 128)).toNat = n % 64 + 128 := toNat_ofNat_of_lt (by omega)
  have hbits : (n / 64 % 32 + 192) % 0x20 * 0x40 + (n % 64 + 128) % 0x40 = n := by omega
  rw [List.foldl_cons, List.foldl_cons, List.foldl_nil, read_unstarted, hfirst,
    readFirst_of_lead (by omega) hlead, read_last (by omega) (by omega), hlast, hbits]

theorem foldl_read_three (done : List (Option Char)) {n : Nat} (hlow : 0x800 ≤ n)
    (hhigh : n < 0x10000) (hsurrogate : n < 0xD800 ∨ 0xDFFF < n) :
    [UInt8.ofNat (n / 4096 % 16 + 224), UInt8.ofNat (n / 64 % 64 + 128),
        UInt8.ofNat (n % 64 + 128)].foldl read ⟨done, none⟩ =
      ⟨some (Char.ofNat n) :: done, none⟩ := by
  obtain ⟨low, high, hlead, hlowest, hhighest⟩ :=
    @exists_lead?_of_three (n / 4096 % 16 + 224) (n / 64 % 64 + 128) (by omega) (by omega)
      (by omega) (by omega) (by omega)
  have hfirst : (UInt8.ofNat (n / 4096 % 16 + 224)).toNat = n / 4096 % 16 + 224 :=
    toNat_ofNat_of_lt (by omega)
  have hinner : (UInt8.ofNat (n / 64 % 64 + 128)).toNat = n / 64 % 64 + 128 :=
    toNat_ofNat_of_lt (by omega)
  have hlast : (UInt8.ofNat (n % 64 + 128)).toNat = n % 64 + 128 := toNat_ofNat_of_lt (by omega)
  have hbits : ((n / 4096 % 16 + 224) % 0x10 * 0x40 + (n / 64 % 64 + 128) % 0x40) * 0x40 +
      (n % 64 + 128) % 0x40 = n := by
    omega
  rw [List.foldl_cons, List.foldl_cons, List.foldl_cons, List.foldl_nil, read_unstarted, hfirst,
    readFirst_of_lead (by omega) hlead, read_inner 0 (by omega) (by omega),
    read_last (by omega) (by omega), hlast, hinner, hbits]

theorem foldl_read_four (done : List (Option Char)) {n : Nat} (hlow : 0x10000 ≤ n)
    (hhigh : n < 0x110000) :
    [UInt8.ofNat (n / 262144 % 8 + 240), UInt8.ofNat (n / 4096 % 64 + 128),
        UInt8.ofNat (n / 64 % 64 + 128), UInt8.ofNat (n % 64 + 128)].foldl read ⟨done, none⟩ =
      ⟨some (Char.ofNat n) :: done, none⟩ := by
  obtain ⟨low, high, hlead, hlowest, hhighest⟩ :=
    @exists_lead?_of_four (n / 262144 % 8 + 240) (n / 4096 % 64 + 128) (by omega) (by omega)
      (by omega) (by omega) (by omega)
  have hfirst : (UInt8.ofNat (n / 262144 % 8 + 240)).toNat = n / 262144 % 8 + 240 :=
    toNat_ofNat_of_lt (by omega)
  have hsecond : (UInt8.ofNat (n / 4096 % 64 + 128)).toNat = n / 4096 % 64 + 128 :=
    toNat_ofNat_of_lt (by omega)
  have hthird : (UInt8.ofNat (n / 64 % 64 + 128)).toNat = n / 64 % 64 + 128 :=
    toNat_ofNat_of_lt (by omega)
  have hlast : (UInt8.ofNat (n % 64 + 128)).toNat = n % 64 + 128 := toNat_ofNat_of_lt (by omega)
  have hbits : (((n / 262144 % 8 + 240) % 0x08 * 0x40 + (n / 4096 % 64 + 128) % 0x40) * 0x40 +
      (n / 64 % 64 + 128) % 0x40) * 0x40 + (n % 64 + 128) % 0x40 = n := by
    omega
  rw [List.foldl_cons, List.foldl_cons, List.foldl_cons, List.foldl_cons, List.foldl_nil,
    read_unstarted, hfirst, readFirst_of_lead (by omega) hlead,
    read_inner 1 (by omega) (by omega), read_inner 0 (by omega) (by omega),
    read_last (by omega) (by omega), hlast, hthird, hsecond, hbits]

/-- The bytes of a character are read as the character. -/
theorem foldl_read_utf8EncodeChar (done : List (Option Char)) (c : Char) :
    (String.utf8EncodeChar c).foldl read ⟨done, none⟩ = ⟨some c :: done, none⟩ := by
  have hvalid : c.val.toNat < 0xD800 ∨ 0xDFFF < c.val.toNat ∧ c.val.toNat < 0x110000 := c.valid
  have hchar : Char.ofNat c.val.toNat = c := Char.ofNat_toNat c
  rw [String.utf8EncodeChar]
  generalize c.val.toNat = n at hvalid hchar
  rw [← hchar]
  -- a character has one byte, two, three or four
  split
  case isTrue hone => exact foldl_read_one done (by omega)
  case isFalse hone =>
    split
    case isTrue htwo => exact foldl_read_two done (by omega) (by omega)
    case isFalse htwo =>
      split
      case isTrue hthree => exact foldl_read_three done (by omega) (by omega) (by omega)
      case isFalse hthree => exact foldl_read_four done (by omega) (by omega)

theorem foldl_read_flatMap (done : List (Option Char)) (cs : List Char) :
    (cs.flatMap String.utf8EncodeChar).foldl read ⟨done, none⟩ =
      ⟨(cs.map some).reverse ++ done, none⟩ := by
  induction cs generalizing done with
  | nil => rfl
  | cons c cs ih =>
    rw [List.flatMap_cons, List.foldl_append, foldl_read_utf8EncodeChar, ih]
    simp

theorem toList_toUTF8 (text : String) :
    text.toUTF8.data.toList = text.toList.flatMap String.utf8EncodeChar := by
  rw [String.toUTF8_eq_toByteArray, ← String.utf8Encode_toList, List.utf8Encode,
    List.toList_data_toByteArray]

/-- All characters of a text are read, in order. -/
theorem decodeUtf8_toUTF8 (text : String) :
    decodeUtf8 text.toUTF8.data.toList = text.toList.map some := by
  rw [decodeUtf8, toList_toUTF8, foldl_read_flatMap [] text.toList]
  simp [finish]

theorem decodeLossy_toUTF8 (text : String) : decodeLossy text.toUTF8.data.toList = text := by
  rw [decodeLossy, decodeUtf8_toUTF8, List.map_map]
  have hid : ((·.getD '\uFFFD') ∘ some : Char → Char) = id := rfl
  rw [hid, List.map_id, String.ofList_toList]

end MarkdownPreview.Text
