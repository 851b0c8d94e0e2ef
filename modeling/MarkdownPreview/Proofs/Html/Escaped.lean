import MarkdownPreview.Proofs.Html.References

/-!
Texts that are written by escaping. Of the characters that have a reference only ampersands are left
in such a text, and each of them begins a reference. Conversely a text like that is written for the
text that it is read as. So escaping and reading back are inverse to each other.
-/

namespace MarkdownPreview.Html

/-- Nothing is left to escape: of the characters that have a reference only ampersands are in the
text, and each of them begins a reference. -/
structure IsEscaped (rules : EscapeRules) (cs : List Char) : Prop where
  special : ∀ rule ∈ rules, rule.1 ∈ cs → rule.1 = '&'
  ampersand : ∀ before after, cs = before ++ '&' :: after →
    ∃ rule ∈ rules, rule.2.toList <+: '&' :: after

/-- Rules that give a character one reference only, and whose references are not to be escaped
again but for the ampersands that they begin with. -/
structure Exact (rules : EscapeRules) : Prop extends Undoes rules rules where
  single : ∀ rule ∈ rules, rules.lookup rule.1 = some rule.2
  bare : ∀ rule ∈ rules, ∀ c ∈ rule.2.toList.tail, rules.lookup c = none

theorem exact_textRules : Exact textRules where
  toUndoes := undoes_textRules
  single := by decide
  bare := by
    simp only [← Option.isNone_iff_eq_none, ← List.all_eq_true]
    decide

variable {rules : EscapeRules} {a b cs : List Char}

/-! ### Texts put together -/

theorem IsEscaped.nil : IsEscaped rules [] where
  special _ _ h := nomatch h
  ampersand before after h := by simp at h

theorem IsEscaped.append (ha : IsEscaped rules a) (hb : IsEscaped rules b) :
    IsEscaped rules (a ++ b) where
  special rule hmem hc := by
    rcases List.mem_append.mp hc with hc | hc
    · exact ha.special rule hmem hc
    · exact hb.special rule hmem hc
  ampersand before after h := by
    -- the ampersand is in the second text, or else with its reference in the first
    rcases List.append_eq_append_iff.mp h with ⟨gap, -, hb'⟩ | ⟨gap, ha', hrest⟩
    · exact hb.ampersand gap after hb'
    · cases gap with
      | nil => exact hb.ampersand [] after hrest.symm
      | cons c gap =>
        obtain ⟨rfl, rfl⟩ := List.cons.inj hrest
        obtain ⟨rule, hmem, hbegins⟩ := ha.ampersand before gap ha'
        exact ⟨rule, hmem, hbegins.trans (List.prefix_append ('&' :: gap) b)⟩

theorem IsEscaped.of_append (h : IsEscaped rules (a ++ b)) : IsEscaped rules b where
  special rule hmem hc := h.special rule hmem (List.mem_append_right a hc)
  ampersand before after hb := h.ampersand (a ++ before) after (by rw [hb, List.append_assoc])

/-! ### What is written is escaped -/

theorem Exact.isEscaped_of_lookup (h : Exact rules) (hcs : ∀ c ∈ cs, rules.lookup c = none) :
    IsEscaped rules cs where
  special rule hmem hc := by
    have hsingle := h.single rule hmem
    rw [hcs _ hc] at hsingle
    cases hsingle
  ampersand before after heq := by
    have hsome := h.ampersand
    have hmem : '&' ∈ cs := by
      rw [heq]
      exact List.mem_append_right before List.mem_cons_self
    rw [hcs _ hmem] at hsome
    cases hsome

theorem Exact.isEscaped_reference (h : Exact rules) {rule : Char × String} (hmem : rule ∈ rules) :
    IsEscaped rules rule.2.toList := by
  obtain ⟨rest, hrest⟩ := List.head?_eq_some_iff.mp (h.begins rule hmem)
  have hbare := h.bare rule hmem
  rw [hrest, List.tail_cons] at hbare
  have hescaped := h.isEscaped_of_lookup hbare
  rw [hrest]
  constructor
  case special =>
    intro other hother hc
    rcases List.mem_cons.mp hc with hc | hc
    · exact hc
    · exact hescaped.special other hother hc
  case ampersand =>
    intro before after heq
    cases before with
    | nil =>
      obtain rfl := (List.cons.inj heq).2
      exact ⟨rule, hmem, [], by rw [List.append_nil, hrest]⟩
    | cons c before => exact hescaped.ampersand before after (List.cons.inj heq).2

theorem Exact.isEscaped_escapeChar (h : Exact rules) (c : Char) :
    IsEscaped rules (escapeChar rules c) := by
  unfold escapeChar
  cases hlookup : rules.lookup c with
  | some reference => exact h.isEscaped_reference (mem_of_lookup_eq_some hlookup)
  | none =>
    refine h.isEscaped_of_lookup fun d hd => ?_
    rw [List.mem_singleton.mp hd, hlookup]

theorem Exact.isEscaped_escapeChars (h : Exact rules) (cs : List Char) :
    IsEscaped rules (escapeChars rules cs) := by
  induction cs with
  | nil => exact .nil
  | cons c cs ih =>
    rw [escapeChars_cons]
    exact (h.isEscaped_escapeChar c).append ih

/-! ### What is escaped is written -/

theorem Exact.exists_escapeChars_eq (h : Exact rules) (hcs : IsEscaped rules cs) :
    ∃ text, escapeChars rules text = cs := by
  induction hlength : cs.length using Nat.strongRecOn generalizing cs with
  | ind length ih =>
    subst hlength
    match cs with
    | [] => exact ⟨[], rfl⟩
    | c :: rest =>
      cases hlookup : rules.lookup c with
      | none =>
        have hrest : IsEscaped rules rest := IsEscaped.of_append (a := [c]) hcs
        obtain ⟨text, rfl⟩ := ih _ (Nat.lt_succ_self _) hrest rfl
        refine ⟨c :: text, ?_⟩
        rw [escapeChars_cons, escapeChar, hlookup, List.singleton_append]
      | some reference =>
        obtain rfl := hcs.special _ (mem_of_lookup_eq_some hlookup) List.mem_cons_self
        obtain ⟨rule, hmem, after, hafter⟩ := hcs.ampersand [] rest rfl
        obtain ⟨inside, hinside⟩ := List.head?_eq_some_iff.mp (h.begins rule hmem)
        -- a reference has an ampersand at least, so what stands after it is shorter
        have hlt : after.length < ('&' :: rest).length := by
          rw [← hafter, hinside, List.length_append, List.length_cons]
          omega
        rw [← hafter] at hcs ⊢
        obtain ⟨text, rfl⟩ := ih _ hlt hcs.of_append rfl
        refine ⟨rule.1 :: text, ?_⟩
        rw [escapeChars_cons, escapeChar, h.single rule hmem]

theorem Exact.isEscaped_iff (h : Exact rules) {s : String} :
    IsEscaped rules s.toList ↔ escapeWith rules (unescapeWith rules s) = s := by
  constructor
  · intro hs
    obtain ⟨text, htext⟩ := h.exists_escapeChars_eq hs
    have hwritten : escapeWith rules (String.ofList text) = s := by
      rw [← String.toList_inj, toList_escapeWith, String.toList_ofList, htext]
    rw [← hwritten, unescapeWith_escapeWith h.toUndoes]
  · intro hs
    rw [← hs, toList_escapeWith]
    exact h.isEscaped_escapeChars _

instance (s : String) : Decidable (IsEscaped textRules s.toList) :=
  decidable_of_iff _ exact_textRules.isEscaped_iff.symm

example : IsEscaped textRules "&amp;lt; b".toList ∧ ¬ IsEscaped textRules "a & b".toList := by
  decide +kernel

/-! ### Main statement -/

theorem unescape_escape_append (s t : String) : unescape (escape s ++ t) = s ++ unescape t := by
  rw [← String.toList_inj, String.toList_append, unescape, unescape, unescapeWith, unescapeWith,
    String.toList_ofList, String.toList_ofList, String.toList_append, escape, toList_escapeWith]
  exact unescapeChars_escapeChars_append undoes_textRules s.toList t.toList

/-- What is written for a text is read as that text, whatever stands after it. There is no angle
bracket and no quote in it, and every ampersand in it begins one of the five references; a text is
like that exactly if it is what is written for the text that it is read as. Texts that are put
together can be escaped one by one. -/
theorem escape_reads_back (s t : String) :
    unescape (escape s) = s ∧ IsEscaped textRules (escape s).toList ∧
    (IsEscaped textRules t.toList ↔ escape (unescape t) = t) ∧
    escape (s ++ t) = escape s ++ escape t ∧
    unescape (escape s ++ t) = s ++ unescape t := by
  refine ⟨unescape_escape s, ?_, exact_textRules.isEscaped_iff, escape_append s t,
    unescape_escape_append s t⟩
  rw [escape, toList_escapeWith]
  exact exact_textRules.isEscaped_escapeChars s.toList

end MarkdownPreview.Html
