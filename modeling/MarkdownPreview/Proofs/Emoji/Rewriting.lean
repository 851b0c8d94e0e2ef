import MarkdownPreview.Proofs.Emoji.Table
import MarkdownPreview.Proofs.Render.Tokens

/-!
Shortcodes are replaced as if the text was read from left to right, one character after the other.
An escape has no colon in it and no character of a shortcode is escaped, so the shortcodes of the
escaped text are those of the text itself.
-/

namespace MarkdownPreview

namespace Emoji

/-- A text is rewritten from left to right: where a code of the table begins, its emoji is written
and the code is passed over, and all other characters are written one by one. -/
inductive Rewritten (write : Char → List Char) : List Char → List Char → Prop
  | nil : Rewritten write [] []
  | code {code : String} {emoji : Emoji} {cs written : List Char} (hmem : (code, emoji) ∈ table)
      (hrest : Rewritten write cs written) :
      Rewritten write (code.toList ++ cs) ((emoji.markup code).toList ++ written)
  | char {c : Char} {cs written : List Char} (hnone : ∀ entry ∈ table, ¬entry.1.toList <+: c :: cs)
      (hrest : Rewritten write cs written) : Rewritten write (c :: cs) (write c ++ written)

variable {cs written : List Char}

theorem exists_rewritten (write : Char → List Char) (cs : List Char) :
    ∃ written, Rewritten write cs written := by
  induction hlength : cs.length using Nat.strongRecOn generalizing cs with
  | ind length ih =>
    subst hlength
    match cs with
    | [] => exact ⟨[], .nil⟩
    | c :: cs =>
      cases hcode : shortcodeAt? (c :: cs) with
      | some entry =>
        obtain ⟨word, rest, -, hword, hrest, hlookup⟩ := exists_word_of_shortcodeAt? hcode
        -- a code has two colons at least, so the rest is shorter
        have hlt : rest.length < (c :: cs).length := by
          rw [hrest, hword]
          simp only [List.length_append, List.length_cons]
          omega
        obtain ⟨written, hwritten⟩ := ih _ hlt rest rfl
        rw [hrest]
        exact ⟨_, .code (lookup_eq_some_iff.mp hlookup) hwritten⟩
      | none =>
        obtain ⟨written, hwritten⟩ := ih _ (Nat.lt_succ_self _) cs rfl
        exact ⟨_, .char (shortcodeAt?_eq_none_iff.mp hcode) hwritten⟩

theorem shortcodeAt?_of_mem {code : String} {emoji : Emoji} (hmem : (code, emoji) ∈ table)
    (rest : List Char) : shortcodeAt? (code.toList ++ rest) = some (code, emoji) :=
  shortcodeAt?_eq_some_iff.mpr ⟨hmem, List.prefix_append _ _⟩

/-- Without escapes. -/
theorem Rewritten.substituteChars_eq (h : Rewritten (fun c => [c]) cs written) :
    substituteChars cs = written := by
  induction h with
  | nil => rfl
  | code hmem _ ih => rw [substituteChars_append_of_some (shortcodeAt?_of_mem hmem _), ih]
  | char hnone _ ih =>
    rw [substituteChars_cons_of_none (shortcodeAt?_eq_none_iff.mpr hnone), ih]
    rfl

end Emoji

/-! ### Escaped texts -/

namespace Html

/-- What begins an escaped text without an ampersand begins the text. -/
theorem prefix_of_prefix_escapeChars {token cs : List Char} (h : '&' ∉ token)
    (htoken : token <+: escapeChars textRules cs) : token <+: cs := by
  induction token generalizing cs with
  | nil => exact List.nil_prefix
  | cons c token ih =>
    simp only [List.mem_cons, not_or] at h
    obtain ⟨written, hwritten⟩ := htoken
    obtain ⟨rest, rfl, hrest⟩ := exists_of_escapeChars_eq_cons (Ne.symm h.1) hwritten.symm
    exact List.cons_prefix_cons.mpr ⟨rfl, ih h.2 ⟨written, hrest.symm⟩⟩

theorem colon_not_mem_escapeChar {c : Char} (h : c ≠ ':') : ':' ∉ escapeChar textRules c := by
  have hall : ∀ rule ∈ textRules, ':' ∉ rule.2.toList := by decide
  unfold escapeChar
  cases hlookup : textRules.lookup c with
  | none => simp [Ne.symm h]
  | some reference =>
    exact hall _ (mem_of_lookup_eq_some hlookup)

end Html

namespace Emoji

open Html (escape escapeChar escapeChars textRules)

variable {cs written : List Char}

/-- No character of a code is written as a reference. -/
theorem lookup_textRules_of_mem_code {code : String} {emoji : Emoji} (h : (code, emoji) ∈ table) :
    ∀ c ∈ code.toList, textRules.lookup c = none := by
  obtain ⟨word, -, hword, hcode, -, -⟩ := exists_word_of_shortcodeAt? (shortcodeAt?_of_mem h [])
  have hrules : ∀ rule ∈ textRules, rule.1 ≠ ':' ∧ isWordChar rule.1 = false := by decide
  intro c hc
  have hchar : c = ':' ∨ isWordChar c = true := by
    rw [hcode] at hc
    simp only [List.cons_append, List.mem_cons, List.mem_append, List.not_mem_nil, or_false] at hc
    rcases hc with hcolon | hc | hcolon
    · exact .inl hcolon
    · exact .inr (hword c hc)
    · exact .inl hcolon
  rw [List.lookup_eq_none_iff]
  intro rule hrule
  obtain ⟨hcolon, hnot⟩ := hrules rule hrule
  rw [bne_iff_ne]
  rintro rfl
  rcases hchar with heq | hwordChar
  · exact hcolon heq
  · rw [hnot] at hwordChar
    cases hwordChar

/-- With escapes: the codes of the escaped text are those of the text. -/
theorem Rewritten.substituteChars_escapeChars_eq (h : Rewritten (escapeChar textRules) cs written) :
    substituteChars (escapeChars textRules cs) = written := by
  induction h with
  | nil => rfl
  | code hmem _ ih =>
    rw [Html.escapeChars_append, Html.escapeChars_eq_self (lookup_textRules_of_mem_code hmem),
      substituteChars_append_of_some (shortcodeAt?_of_mem hmem _), ih]
  | @char c cs written hnone _ ih =>
    by_cases hcolon : c = ':'
    · subst hcolon
      have hescaped : shortcodeAt? (escapeChars textRules (':' :: cs)) = none := by
        rw [shortcodeAt?_eq_none_iff]
        intro entry hentry hbegins
        have hampersand : '&' ∉ entry.1.toList := by
          intro hmem
          cases lookup_textRules_of_mem_code hentry '&' hmem
        exact hnone entry hentry (Html.prefix_of_prefix_escapeChars hampersand hbegins)
      rw [Html.escapeChars_cons_of_lookup rfl] at hescaped ⊢
      rw [substituteChars_cons_of_none hescaped, ih]
      rfl
    · rw [Html.escapeChars_cons, substituteChars_append (Html.colon_not_mem_escapeChar hcolon), ih]

/-! ### Main statements -/

/-- Replacing shortcodes answers for every text, and what it writes is what the text is rewritten to
from left to right. The text is left as it is if and only if no code of the table occurs in it. -/
theorem replaced_rewritten (text : String) :
    replaced text = .ok (substitute? text) ∧
    (∀ written, Rewritten (fun c => [c]) text.toList written ↔
      (substitute text).toList = written) ∧
    (substitute? text = none ↔ ∀ entry ∈ table, ¬entry.1.toList <:+: text.toList) := by
  refine ⟨?_, fun written => ⟨fun h => ?_, ?_⟩, ?_⟩
  · rw [substitute?_eq, replaced_eq]
  · rw [toList_substitute]
    exact h.substituteChars_eq
  · rintro rfl
    obtain ⟨written, h⟩ := exists_rewritten (fun c => [c]) text.toList
    rw [toList_substitute, h.substituteChars_eq]
    exact h
  · rw [substitute?_eq, ← hasShortcode_eq_false_iff]
    cases hasShortcode text.toList <;> simp

/-- The closing colon of a word that is no shortcode opens the next one. -/
example : substitute "foo:bar:fire:" = "foo:bar🔥" := by decide +kernel

/-- Escaping does not change which shortcodes are replaced: what is written is the text itself
rewritten from left to right, with all characters outside of shortcodes escaped. -/
theorem substitute_escape_rewritten (text : String) (written : List Char) :
    Rewritten (escapeChar textRules) text.toList written ↔
      (substitute (escape text)).toList = written := by
  have hwritten {written : List Char} (h : Rewritten (escapeChar textRules) text.toList written) :
      (substitute (escape text)).toList = written := by
    rw [toList_substitute, escape, Html.toList_escapeWith]
    exact h.substituteChars_escapeChars_eq
  refine ⟨hwritten, ?_⟩
  rintro rfl
  obtain ⟨written, h⟩ := exists_rewritten (escapeChar textRules) text.toList
  rw [hwritten h]
  exact h

end Emoji

end MarkdownPreview
