import Mathlib.Data.List.Basic
import MarkdownPreview.Html.Escape

/-!
Character references read back. A reader goes over the text from left to right and puts the
character for each reference of its rules; what it has put is not read again. Escaped text is read
as what was escaped, whatever stands after it.
-/

namespace MarkdownPreview.Html

/-- The rule whose reference begins a text. -/
def ruleAt? (rules : EscapeRules) (cs : List Char) : Option (Char × String) :=
  rules.find? fun rule => rule.2.toList.isPrefixOf cs

/-- What the characters of a text after the first `skip` of them stand for. -/
def unescapeChars (rules : EscapeRules) : Nat → List Char → List Char
  | _, [] => []
  | skip + 1, _ :: rest => unescapeChars rules skip rest
  | 0, c :: rest =>
    match ruleAt? rules (c :: rest) with
    | some (d, reference) => d :: unescapeChars rules (reference.length - 1) rest
    | none => c :: unescapeChars rules 0 rest

def unescapeWith (rules : EscapeRules) (s : String) : String :=
  String.ofList (unescapeChars rules 0 s.toList)

/-- What a text of the fragment stands for. -/
def unescape (s : String) : String := unescapeWith textRules s

/-- All references that are written, by whatever rules. -/
def references : EscapeRules := templateRules ++ [('\'', "&#39;")]

/-- What a text stands for, by whatever rules it was escaped. -/
def decode (s : String) : String := unescapeWith references s

/-- Rules that a reader can go by where a text was escaped by others: it knows the references of
these, and it can tell references apart, since each begins with an ampersand and none begins
another. An ampersand of the text is not taken for one. -/
structure Undoes (rules written : EscapeRules) : Prop where
  known : ∀ rule ∈ written, rule ∈ rules
  ampersand : (written.lookup '&').isSome
  begins : ∀ rule ∈ rules, rule.2.toList.head? = some '&'
  apart : ∀ rule ∈ rules, ∀ rule' ∈ rules, rule.2.toList <+: rule'.2.toList → rule = rule'

variable {rules written : EscapeRules}

theorem unescapeChars_skip (front rest : List Char) :
    unescapeChars rules front.length (front ++ rest) = unescapeChars rules 0 rest := by
  induction front with
  | nil => rfl
  | cons c front ih => exact ih

theorem ruleAt?_append (h : Undoes rules written) {rule : Char × String} (hmem : rule ∈ rules)
    (rest : List Char) : ruleAt? rules (rule.2.toList ++ rest) = some rule := by
  have hbegin : rule.2.toList <+: rule.2.toList ++ rest := List.prefix_append _ _
  cases hfind : ruleAt? rules (rule.2.toList ++ rest) with
  | none =>
    have hnone := List.find?_eq_none.mp hfind rule hmem
    exact absurd (List.isPrefixOf_iff_prefix.mpr hbegin) hnone
  | some found =>
    -- of two references that begin the same text one begins the other
    have hfound := List.find?_some hfind
    rw [List.isPrefixOf_iff_prefix] at hfound
    have hmem' := List.mem_of_find?_eq_some hfind
    rcases List.prefix_or_prefix_of_prefix hfound hbegin with hbegins | hbegins
    · rw [h.apart found hmem' rule hmem hbegins]
    · rw [h.apart rule hmem found hmem' hbegins]

theorem ruleAt?_cons_of_ne (h : Undoes rules written) {c : Char} (hc : c ≠ '&')
    (rest : List Char) : ruleAt? rules (c :: rest) = none := by
  refine List.find?_eq_none.mpr fun rule hmem hbegin => ?_
  have hbegins := h.begins rule hmem
  cases hreference : rule.2.toList with
  | nil =>
    rw [hreference] at hbegins
    cases hbegins
  | cons d reference =>
    rw [hreference] at hbegins hbegin
    obtain rfl := Option.some.inj hbegins
    exact hc (List.cons_prefix_cons.mp (List.isPrefixOf_iff_prefix.mp hbegin)).1.symm

theorem unescapeChars_cons_of_ne (h : Undoes rules written) {c : Char} (hc : c ≠ '&')
    (rest : List Char) : unescapeChars rules 0 (c :: rest) = c :: unescapeChars rules 0 rest := by
  rw [unescapeChars, ruleAt?_cons_of_ne h hc]

theorem unescapeChars_reference_append (h : Undoes rules written) {c : Char} {reference : String}
    (hmem : (c, reference) ∈ rules) (rest : List Char) :
    unescapeChars rules 0 (reference.toList ++ rest) = c :: unescapeChars rules 0 rest := by
  have hfind := ruleAt?_append h hmem rest
  have hbegins := h.begins _ hmem
  cases hreference : reference.toList with
  | nil =>
    rw [hreference] at hbegins
    cases hbegins
  | cons d after =>
    have hlength : reference.length - 1 = after.length := by
      rw [← String.length_toList, hreference, List.length_cons, Nat.add_sub_cancel]
    simp only [hreference, List.cons_append] at hfind
    rw [List.cons_append, unescapeChars, hfind]
    simp only [hlength, unescapeChars_skip]

theorem unescapeChars_escapeChar_append (h : Undoes rules written) (c : Char)
    (rest : List Char) :
    unescapeChars rules 0 (escapeChar written c ++ rest) = c :: unescapeChars rules 0 rest := by
  unfold escapeChar
  cases hlookup : written.lookup c with
  | some reference =>
    have hmem := h.known _ (mem_of_lookup_eq_some hlookup)
    exact unescapeChars_reference_append h hmem rest
  | none =>
    have hc : c ≠ '&' := by
      rintro rfl
      have hsome := h.ampersand
      rw [hlookup] at hsome
      cases hsome
    exact unescapeChars_cons_of_ne h hc rest

theorem unescapeChars_escapeChars_append (h : Undoes rules written) (cs rest : List Char) :
    unescapeChars rules 0 (escapeChars written cs ++ rest) =
      cs ++ unescapeChars rules 0 rest := by
  induction cs with
  | nil => rfl
  | cons c cs ih =>
    rw [escapeChars_cons, List.append_assoc, unescapeChars_escapeChar_append h, ih,
      List.cons_append]

theorem unescapeWith_escapeWith (h : Undoes rules written) (s : String) :
    unescapeWith rules (escapeWith written s) = s := by
  have hread := unescapeChars_escapeChars_append h s.toList []
  rw [List.append_nil] at hread
  rw [unescapeWith, toList_escapeWith, hread, unescapeChars, List.append_nil, String.ofList_toList]

theorem undoes_textRules : Undoes textRules textRules :=
  ⟨by decide, by decide, by decide, by decide⟩

theorem unescape_escape (s : String) : unescape (escape s) = s :=
  unescapeWith_escapeWith undoes_textRules s

theorem undoes_references {written : EscapeRules}
    (h : written ∈ [textRules, templateRules, codeRules]) : Undoes references written := by
  refine ⟨?_, ?_, by decide, by decide⟩
  · revert written
    decide
  · revert written
    decide

theorem decode_escapeWith {written : EscapeRules}
    (h : written ∈ [textRules, templateRules, codeRules]) (s : String) :
    decode (escapeWith written s) = s :=
  unescapeWith_escapeWith (undoes_references h) s

example : unescape "&amp;lt; &#x27;a&quot; &b &lt" = "&lt; 'a\" &b &lt" := by decide +kernel

end MarkdownPreview.Html
