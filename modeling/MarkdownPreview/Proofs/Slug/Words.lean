import Mathlib.Data.List.Induction
import MarkdownPreview.Proofs.Text.Letters
import MarkdownPreview.Proofs.Text.Pieces
import MarkdownPreview.Slug

/-!
The words of a slug. A text is split at its separators; each piece is a word in lower case, without
what is not alphanumeric, and the slug is the words that are not empty, with a dash between any two.
It is written character by character, and the words so far can be read off what is written.
-/

namespace MarkdownPreview.Slug

open Text

/-- A character between two words. -/
def isBetween (c : Char) : Bool := !isAlphanumeric c && isSeparator c

/-- The word that a piece of a text comes to. -/
def lowered (piece : List Char) : List Char := (piece.filter isAlphanumeric).flatMap lowerCase

def nonempty (ws : List (List Char)) : List (List Char) := ws.filter (· ≠ [])

/-- The words of a text. -/
def words (cs : List Char) : List (List Char) := nonempty ((cs.splitOnP isBetween).map lowered)

/-- The draft of some words, each with a dash after it, and of the first characters of one more. -/
def Draft.ofWords (ws : List (List Char)) (w : List Char) : Draft :=
  ⟨ws.flatMap (· ++ ['-']) ++ w, !w.isEmpty⟩

/-! ### Pieces in lower case -/

theorem isBetween_of_isWhiteSpace {c : Char} (h : isWhiteSpace c) : isBetween c := by
  simp [isBetween, isSeparator, h, isAlphanumeric_of_isWhiteSpace h]

theorem isAlphanumeric_of_isBetween {c : Char} (h : isBetween c) : isAlphanumeric c = false := by
  simp only [isBetween, Bool.and_eq_true, Bool.not_eq_true'] at h
  exact h.1

theorem lowered_cons_of_alphanumeric {c : Char} (h : isAlphanumeric c) (cs : List Char) :
    lowered (c :: cs) = lowerCase c ++ lowered cs := by
  simp [lowered, h]

theorem lowered_cons_of_not {c : Char} (h : isAlphanumeric c = false) (cs : List Char) :
    lowered (c :: cs) = lowered cs := by
  simp [lowered, h]

theorem lowered_append (cs ds : List Char) : lowered (cs ++ ds) = lowered cs ++ lowered ds := by
  simp [lowered]

theorem lowered_eq_nil_iff {cs : List Char} :
    lowered cs = [] ↔ ∀ c ∈ cs, isAlphanumeric c = false := by
  simp [lowered, List.flatMap_eq_nil_iff, lowerCase_ne_nil]

theorem dash_not_mem_lowered (cs : List Char) : '-' ∉ lowered cs := by
  intro h
  obtain ⟨c, hc, hmem⟩ := List.mem_flatMap.mp h
  exact dash_not_mem_lowerCase (List.mem_filter.mp hc).2 hmem

theorem nonempty_cons (w : List Char) (ws : List (List Char)) :
    nonempty (w :: ws) = nonempty [w] ++ nonempty ws :=
  List.filter_append [w] ws

/-! ### The words of a text -/

theorem exists_splitOnP_eq_cons (cs : List Char) :
    ∃ first rest, cs.splitOnP isBetween = first :: rest :=
  List.exists_cons_of_ne_nil (List.splitOnP_ne_nil _ cs)

theorem splitOnP_cons_of_not {c : Char} (h : isBetween c = false) {cs first : List Char}
    {rest : List (List Char)} (hcs : cs.splitOnP isBetween = first :: rest) :
    (c :: cs).splitOnP isBetween = (c :: first) :: rest := by
  rw [List.splitOnP_cons_eq_if_modifyHead, h, hcs]
  rfl

/-- The words on both sides of a separator are apart. -/
theorem words_append_cons {c : Char} (h : isBetween c) (cs ds : List Char) :
    words (cs ++ c :: ds) = words cs ++ words ds := by
  simp only [words, nonempty, List.splitOnP_append_cons cs ds h, List.map_append,
    List.filter_append]

theorem words_trimStart (cs : List Char) : words (trimStart cs) = words cs := by
  induction cs with
  | nil => rfl
  | cons c cs ih =>
    rw [trimStart, List.dropWhile_cons]
    split
    case isTrue hc => exact ih.trans (words_append_cons (isBetween_of_isWhiteSpace hc) [] cs).symm
    case isFalse => rfl

theorem words_trimEnd (cs : List Char) : words (trimEnd cs) = words cs := by
  induction cs using List.reverseRecOn with
  | nil => rfl
  | append_singleton cs c ih =>
    rw [trimEnd, List.reverse_concat, List.dropWhile_cons]
    split
    case isTrue hc =>
      rw [words_append_cons (isBetween_of_isWhiteSpace hc) cs []]
      exact ih.trans (List.append_nil _).symm
    case isFalse => rw [← List.reverse_concat, List.reverse_reverse]

theorem ne_nil_of_mem_words {cs w : List Char} (h : w ∈ words cs) : w ≠ [] :=
  of_decide_eq_true (List.mem_filter.mp h).2

theorem dash_not_mem_of_mem_words {cs w : List Char} (h : w ∈ words cs) : '-' ∉ w := by
  obtain ⟨piece, -, rfl⟩ := List.mem_map.mp (List.mem_filter.mp h).1
  exact dash_not_mem_lowered piece

/-- All alphanumeric characters of a text are in its words. -/
theorem flatten_words (cs : List Char) : (words cs).flatten = lowered cs := by
  rw [words, nonempty, List.flatten_filter_ne_nil]
  induction cs with
  | nil => rfl
  | cons c cs ih =>
    obtain ⟨first, rest, hcs⟩ := exists_splitOnP_eq_cons cs
    cases hc : isBetween c with
    | true =>
      rw [lowered_cons_of_not (isAlphanumeric_of_isBetween hc), ← ih,
        List.splitOnP_cons_eq_if_modifyHead, if_pos hc]
      rfl
    | false =>
      rw [hcs, List.map_cons, List.flatten_cons] at ih
      rw [splitOnP_cons_of_not hc hcs, List.map_cons, List.flatten_cons, ← List.singleton_append,
        lowered_append, List.append_assoc, ih, ← lowered_append, List.singleton_append]

theorem words_eq_nil_iff {cs : List Char} :
    words cs = [] ↔ ∀ c ∈ cs, isAlphanumeric c = false := by
  rw [← lowered_eq_nil_iff, ← flatten_words]
  constructor
  · intro h
    rw [h, List.flatten_nil]
  · intro h
    rw [List.flatten_eq_nil_iff] at h
    exact List.eq_nil_iff_forall_not_mem.mpr fun w hw => ne_nil_of_mem_words hw (h w hw)

/-! ### Drafts -/

section

variable {c : Char} (ws : List (List Char)) (w : List Char)

theorem add_of_alphanumeric (h : isAlphanumeric c) :
    (Draft.ofWords ws w).add c = .ofWords ws (w ++ lowerCase c) := by
  simp [Draft.add, Draft.ofWords, h, lowerCase_ne_nil]

theorem add_of_between (h : isBetween c) :
    (Draft.ofWords ws w).add c = .ofWords (ws ++ nonempty [w]) [] := by
  simp only [isBetween, Bool.and_eq_true, Bool.not_eq_true'] at h
  cases w with
  | nil => simp [Draft.add, Draft.ofWords, nonempty, h]
  | cons d w => simp [Draft.add, Draft.ofWords, nonempty, h]

theorem add_of_neither (halphanumeric : isAlphanumeric c = false) (h : isBetween c = false) :
    (Draft.ofWords ws w).add c = .ofWords ws w := by
  have hseparator : isSeparator c = false := by simpa [isBetween, halphanumeric] using h
  simp [Draft.add, halphanumeric, hseparator]

theorem joinWith_concat : joinWith '-' (ws ++ [w]) = ws.flatMap (· ++ ['-']) ++ w := by
  induction ws with
  | nil => rfl
  | cons first ws ih =>
    rw [List.cons_append, joinWith_cons '-' first (List.concat_ne_nil _ _), ih]
    simp

/-- The dash after the last word is taken away. -/
theorem finish_ofWords (h : '-' ∉ w) :
    (Draft.ofWords ws w).finish = joinWith '-' (ws ++ nonempty [w]) := by
  cases w using List.reverseRecOn with
  | nil =>
    cases ws using List.reverseRecOn with
    | nil => rfl
    | append_singleton ws v =>
      have hchars : (Draft.ofWords (ws ++ [v]) []).chars = joinWith '-' (ws ++ [v]) ++ ['-'] := by
        simp [Draft.ofWords, joinWith_concat]
      rw [Draft.finish, hchars, List.getLast?_concat, if_pos rfl, List.dropLast_concat]
      simp [nonempty]
  | append_singleton w c =>
    have hc : c ≠ '-' := by
      rintro rfl
      exact h List.mem_concat_self
    have hword : nonempty [w ++ [c]] = [w ++ [c]] := by simp [nonempty]
    rw [hword, joinWith_concat, Draft.finish]
    simp [Draft.ofWords, ← List.append_assoc, hc]

end

/-- From a draft on, the pieces of a text become words; the first one goes on with the word that is
begun. -/
theorem finish_foldl_add {cs first : List Char} {rest : List (List Char)}
    (hcs : cs.splitOnP isBetween = first :: rest) (ws : List (List Char)) {w : List Char}
    (hw : '-' ∉ w) :
    (cs.foldl Draft.add (.ofWords ws w)).finish =
      joinWith '-' (ws ++ nonempty ((w ++ lowered first) :: rest.map lowered)) := by
  induction cs generalizing first rest ws w with
  | nil =>
    obtain ⟨rfl, rfl⟩ := List.cons.inj hcs
    rw [List.foldl_nil, finish_ofWords ws w hw]
    simp [lowered]
  | cons c cs ih =>
    obtain ⟨next, others, hrest⟩ := exists_splitOnP_eq_cons cs
    rw [List.foldl_cons]
    cases hbetween : isBetween c with
    | true =>
      rw [List.splitOnP_cons_eq_if_modifyHead, if_pos hbetween, hrest] at hcs
      obtain ⟨rfl, rfl⟩ := List.cons.inj hcs
      rw [add_of_between ws w hbetween, ih hrest _ List.not_mem_nil, List.append_assoc,
        ← nonempty_cons, List.map_cons]
      simp [lowered]
    | false =>
      rw [splitOnP_cons_of_not hbetween hrest] at hcs
      obtain ⟨rfl, rfl⟩ := List.cons.inj hcs
      cases halphanumeric : isAlphanumeric c with
      | true =>
        have hdash : '-' ∉ w ++ lowerCase c := by
          simp [hw, dash_not_mem_lowerCase halphanumeric]
        rw [add_of_alphanumeric ws w halphanumeric, ih hrest ws hdash,
          lowered_cons_of_alphanumeric halphanumeric, List.append_assoc]
      | false =>
        rw [add_of_neither ws w halphanumeric hbetween, ih hrest ws hw,
          lowered_cons_of_not halphanumeric]

theorem toList_slugify (text : String) :
    (slugify text).toList = joinWith '-' (words text.toList) := by
  obtain ⟨first, rest, hcs⟩ := exists_splitOnP_eq_cons (trim text.toList)
  rw [slugify, String.toList_ofList, ← words_trimStart, ← words_trimEnd, ← trim, words, hcs]
  exact finish_foldl_add hcs [] List.not_mem_nil

/-! ### Dashes in a slug -/

theorem eq_nil_of_joinWith_eq_nil {ws : List (List Char)} (hws : [] ∉ ws)
    (h : joinWith '-' ws = []) : ws = [] := by
  cases ws with
  | nil => rfl
  | cons w ws =>
    cases ws with
    | nil =>
      obtain rfl : w = [] := h
      exact absurd List.mem_cons_self hws
    | cons v ws =>
      rw [joinWith_cons '-' w (List.cons_ne_nil v ws)] at h
      exact absurd h (List.append_ne_nil_of_right_ne_nil w (List.cons_ne_nil _ _))

/-- No part of a slug is empty, where the dashes part it. -/
theorem nil_not_mem_splitAt_slugify {text : String} (h : (slugify text).toList ≠ []) :
    [] ∉ splitAt '-' (slugify text).toList := by
  rw [toList_slugify] at h ⊢
  have hwords : words text.toList ≠ [] := by
    intro hwords
    rw [hwords] at h
    exact h rfl
  rw [splitAt_joinWith hwords fun w hw => dash_not_mem_of_mem_words hw]
  exact fun hmem => ne_nil_of_mem_words hmem rfl

/-- There is something before every dash of a slug, and after it something other than a dash. -/
theorem slugify_around_dash {text : String} {before after : List Char}
    (h : (slugify text).toList = before ++ '-' :: after) :
    before ≠ [] ∧ after ≠ [] ∧ after.head? ≠ some '-' := by
  have hnil : [] ∉ splitAt '-' (slugify text).toList :=
    nil_not_mem_splitAt_slugify (by simp [h])
  rw [h, splitAt_append, List.mem_append, not_or] at hnil
  refine ⟨?_, ?_, ?_⟩
  · rintro rfl
    exact hnil.1 List.mem_cons_self
  · rintro rfl
    exact hnil.2 List.mem_cons_self
  · intro hhead
    obtain ⟨rest, rfl⟩ := List.head?_eq_some_iff.mp hhead
    rw [splitAt_cons_self] at hnil
    exact hnil.2 List.mem_cons_self

/-- A slug is the words of its text with a dash between any two. So it neither starts nor ends with
a dash and has no two together, and it is empty if and only if no character of the text is
alphanumeric. -/
theorem slugify_joined_words (text : String) :
    (slugify text).toList = joinWith '-' (words text.toList) ∧
    (slugify text).toList.head? ≠ some '-' ∧ (slugify text).toList.getLast? ≠ some '-' ∧
    ¬ ['-', '-'] <:+: (slugify text).toList ∧
    (slugify text = "" ↔ ∀ c ∈ text.toList, isAlphanumeric c = false) := by
  refine ⟨toList_slugify text, ?_, ?_, ?_, ?_⟩
  · intro hhead
    obtain ⟨rest, hslug⟩ := List.head?_eq_some_iff.mp hhead
    have hstart : (slugify text).toList = [] ++ '-' :: rest := hslug
    exact (slugify_around_dash hstart).1 rfl
  · intro hlast
    obtain ⟨before, hslug⟩ := List.getLast?_eq_some_iff.mp hlast
    exact (slugify_around_dash hslug).2.1 rfl
  · rintro ⟨before, after, hslug⟩
    rw [List.append_assoc] at hslug
    exact (slugify_around_dash hslug.symm).2.2 rfl
  · rw [← String.toList_inj, toList_slugify, ← words_eq_nil_iff]
    constructor
    · exact eq_nil_of_joinWith_eq_nil fun hmem => ne_nil_of_mem_words hmem rfl
    · intro h
      rw [h]
      rfl

example : slugify "-- Don't\tSTOP _İ_! --" = "dont-stop-i\u0307" := by decide +kernel

end MarkdownPreview.Slug
