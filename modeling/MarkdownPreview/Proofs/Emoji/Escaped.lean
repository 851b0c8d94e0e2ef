import MarkdownPreview.Proofs.Emoji.Rewriting

/-!
Texts without shortcodes. They are written character by character, so an escaped one stays as it is.
-/

namespace MarkdownPreview.Emoji

open Html (escape escapeChar textRules)

/-- A text in which no shortcode of the table occurs. -/
def NoShortcode (text : String) : Prop :=
  ∀ entry ∈ table, ¬entry.1.toList <:+: text.toList

instance (text : String) : Decidable (NoShortcode text) :=
  decidable_of_iff _ hasShortcode_eq_false_iff

theorem rewritten_flatMap (write : Char → List Char) {cs : List Char}
    (h : ∀ entry ∈ table, ¬entry.1.toList <:+: cs) : Rewritten write cs (cs.flatMap write) := by
  induction cs with
  | nil => exact .nil
  | cons c cs ih =>
    simp only [List.infix_cons_iff, not_or] at h
    exact .char (fun entry hentry => (h entry hentry).1) (ih fun entry hentry => (h entry hentry).2)

/-- Escaped text is written as it is if there is no shortcode in the text. -/
theorem substitute_escape {text : String} (h : NoShortcode text) :
    substitute (escape text) = escape text := by
  rw [← String.toList_inj, toList_substitute, escape, Html.toList_escapeWith]
  exact (rewritten_flatMap (escapeChar textRules) h).substituteChars_escapeChars_eq

end MarkdownPreview.Emoji
