import Mathlib.Data.List.Nodup
import MarkdownPreview.Proofs.Emoji.Pieces

/-!
The codes of the table. Each is a word between two colons, and no code stands in the table twice. So
a text begins with one of them at most, and that one is found.
-/

namespace MarkdownPreview.Emoji

/-! ### No code twice -/

/-- Numbers of which none is repeated, and none is among the bits of those met before. -/
def areDistinct : Nat → List Nat → Bool
  | _, [] => true
  | met, n :: ns => !met.testBit n && areDistinct (met ||| 1 <<< n) ns

theorem nodup_of_areDistinct {met : Nat} {ns : List Nat} (h : areDistinct met ns) :
    ns.Nodup ∧ ∀ n ∈ ns, met.testBit n = false := by
  induction ns generalizing met with
  | nil => simp
  | cons n ns ih =>
    rw [areDistinct, Bool.and_eq_true, Bool.not_eq_true'] at h
    obtain ⟨hnodup, hmet⟩ := ih h.2
    simp only [Nat.testBit_or, Nat.one_shiftLeft, Bool.or_eq_false_iff] at hmet
    refine ⟨List.nodup_cons.mpr ⟨fun hn => ?_, hnodup⟩, ?_⟩
    · have hself := (hmet n hn).2
      rw [Nat.testBit_two_pow_self] at hself
      cases hself
    · rintro m (_ | ⟨_, hm⟩)
      · exact h.1
      · exact (hmet m hm).1

/-- A number by which the codes of the table are told apart: the remainder of their bytes, read as
one number. The divisor is the least for which all remainders are different. -/
def remainder (code : String) : Nat :=
  code.toUTF8.data.toList.foldl (fun n b => (n * 256 + b.toNat) % 13157) 0

theorem areDistinct_table : areDistinct 0 (table.map fun entry => remainder entry.1) := by
  decide +kernel

theorem nodup_table : (table.map Prod.fst).Nodup := by
  have h := (nodup_of_areDistinct areDistinct_table).1
  have hmap : (table.map fun entry => remainder entry.1) = (table.map Prod.fst).map remainder := by
    rw [List.map_map]
    rfl
  rw [hmap] at h
  exact h.of_map

theorem lookup_eq_some_iff {code : String} {emoji : Emoji} :
    lookup code = some emoji ↔ (code, emoji) ∈ table := by
  refine ⟨Html.mem_of_lookup_eq_some, fun hmem => ?_⟩
  obtain ⟨before, after, htable⟩ := List.append_of_mem hmem
  have hnodup := nodup_table
  rw [htable, List.map_append, List.map_cons, List.nodup_append] at hnodup
  rw [lookup, htable, List.lookup_eq_some_iff]
  refine ⟨before, after, rfl, fun entry hentry => ?_⟩
  rw [bne_iff_ne]
  exact (hnodup.2.2 entry.1 (List.mem_map_of_mem hentry) code List.mem_cons_self).symm

/-! ### Words between colons -/

/-- A word between two colons. -/
def isCode : List Char → Bool
  | ':' :: rest =>
    match rest.takeWhile isWordChar, rest.dropWhile isWordChar with
    | _ :: _, [':'] => true
    | _, _ => false
  | _ => false

theorem isCode_ofList {cs : List Char} (h : isCode cs) : isCode (String.ofList cs).toList := by
  rw [String.toList_ofList]
  exact h

theorem isCode_table : ∀ entry ∈ table, isCode entry.1.toList := by
  simp only [table, List.forall_mem_append]
  repeat' apply And.intro
  all_goals
    repeat' refine List.forall_mem_cons.mpr ⟨isCode_ofList rfl, ?_⟩
    exact List.forall_mem_nil _

theorem shortcodeAt?_append {cs : List Char} (h : isCode cs) (after : List Char) :
    shortcodeAt? (cs ++ after) = (lookup (String.ofList cs)).map (String.ofList cs, ·) := by
  unfold isCode at h
  split at h
  case h_2 => cases h
  case h_1 rest =>
    split at h
    case h_2 => cases h
    case h_1 c word hword hcolon =>
      have hrest := List.takeWhile_append_dropWhile (p := isWordChar) (l := rest)
      have hchars : ∀ d ∈ c :: word, isWordChar d = true := by
        rw [← hword]
        exact List.all_eq_true.mp List.all_takeWhile
      rw [hword, hcolon] at hrest
      have hafter : (rest ++ after).takeWhile isWordChar = c :: word ∧
          (rest ++ after).dropWhile isWordChar = ':' :: after := by
        rw [← hrest, List.append_assoc, List.takeWhile_append_of_pos hchars,
          List.dropWhile_append_of_pos hchars]
        exact ⟨List.append_nil _, rfl⟩
      rw [List.cons_append, shortcodeAt?, hafter.1, hafter.2, ← hrest]
      rfl

/-! ### Looking for shortcodes -/

/-- What is found is the one code of the table that the text begins with. -/
theorem shortcodeAt?_eq_some_iff {cs : List Char} {code : String} {emoji : Emoji} :
    shortcodeAt? cs = some (code, emoji) ↔ (code, emoji) ∈ table ∧ code.toList <+: cs := by
  constructor
  · intro h
    obtain ⟨-, rest, -, -, hcs, hlookup⟩ := exists_word_of_shortcodeAt? h
    exact ⟨lookup_eq_some_iff.mp hlookup, rest, hcs.symm⟩
  · rintro ⟨hmem, rest, rfl⟩
    rw [shortcodeAt?_append (isCode_table _ hmem), String.ofList_toList,
      lookup_eq_some_iff.mpr hmem]
    rfl

theorem shortcodeAt?_eq_none_iff {cs : List Char} :
    shortcodeAt? cs = none ↔ ∀ entry ∈ table, ¬entry.1.toList <+: cs := by
  rw [Option.eq_none_iff_forall_ne_some]
  constructor
  · intro h entry hmem hbegins
    exact h entry (shortcodeAt?_eq_some_iff.mpr ⟨hmem, hbegins⟩)
  · intro h entry hcode
    obtain ⟨hmem, hbegins⟩ := shortcodeAt?_eq_some_iff.mp hcode
    exact h entry hmem hbegins

/-- Without a shortcode a text is read character by character, and one that stood in it would be
found where it begins. -/
theorem hasShortcode_eq_false_iff {cs : List Char} :
    hasShortcode cs = false ↔ ∀ entry ∈ table, ¬entry.1.toList <:+: cs := by
  induction cs with
  | nil =>
    refine iff_of_true rfl fun entry hentry hoccurs => ?_
    have hcode := isCode_table entry hentry
    rw [List.infix_nil.mp hoccurs] at hcode
    cases hcode
  | cons c cs ih =>
    cases hcode : shortcodeAt? (c :: cs) with
    | some entry =>
      obtain ⟨hmem, rest, hrest⟩ := shortcodeAt?_eq_some_iff.mp hcode
      refine iff_of_false ?_ fun h => h entry hmem (List.IsPrefix.isInfix ⟨rest, hrest⟩)
      rw [← hrest] at hcode ⊢
      rw [hasShortcode_append_of_some hcode]
      exact nofun
    | none =>
      rw [hasShortcode_cons_of_none hcode, ih]
      simp only [List.infix_cons_iff, not_or]
      constructor
      · intro h entry hentry
        exact ⟨shortcodeAt?_eq_none_iff.mp hcode entry hentry, h entry hentry⟩
      · intro h entry hentry
        exact (h entry hentry).2

end MarkdownPreview.Emoji
