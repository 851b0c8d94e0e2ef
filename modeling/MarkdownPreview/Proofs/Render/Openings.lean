import MarkdownPreview.Proofs.Document.Invariant
import MarkdownPreview.Proofs.Render.Tokens

/-!
What opens an alert or a task in a document, said once as a relation between nodes. Block quotes,
paragraphs and items look for it below themselves and in the text as it stands; texts look for it
above themselves and in the text as it is written. All of them find the same.
-/

namespace MarkdownPreview

open Render.Github (richText)

/-! ### Kinds -/

namespace Element

theorem kind_eq_blockQuote_iff {e : Element} : e.kind = .blockQuote ↔ e = .blockQuote := by
  cases e <;> simp [kind]

theorem kind_eq_item_iff {e : Element} : e.kind = .item ↔ e = .item := by
  cases e <;> simp [kind]

theorem kind_eq_paragraph_iff {e : Element} :
    e.kind = .paragraph ↔ ∃ tight, e = .paragraph tight := by
  cases e <;> simp [kind]

theorem literal?_eq_some_iff {e : Element} (h : e.kind ≠ .codeBlock) {literal : String} :
    e.literal? = some literal ↔ e = .text literal := by
  cases e <;> simp_all [kind, literal?]

end Element

namespace Document

variable {doc : Document}

theorem firstChild?_eq_some_iff_exists {p t : Nat} :
    doc.firstChild? p = some t ↔ ∃ rest, doc.children p = t :: rest := by
  rw [← List.head?_eq_some_iff, List.head?_eq_getElem?]
  exact Eq.congr_left Array.getElem?_toList.symm

/-- A child is the first one if it stands at index zero. -/
theorem Linked.firstChild?_eq_some_iff (linked : doc.Linked) {p t : Nat} :
    doc.firstChild? p = some t ↔ doc.parent? t = some p ∧ doc.indexInParent t = 0 := by
  constructor
  · intro h
    obtain ⟨rest, hchildren⟩ := firstChild?_eq_some_iff_exists.mp h
    have hparent : doc.parent? t = some p := by
      rw [← linked.mem_children_iff, hchildren]
      exact List.mem_cons_self
    refine ⟨hparent, ?_⟩
    simp [indexInParent, hparent, hchildren, List.idxOf?_cons]
  · rintro ⟨hparent, hindex⟩
    have hchild := linked.getElem?_indexInParent hparent
    rw [hindex, ← List.head?_eq_getElem?, List.head?_eq_some_iff] at hchild
    exact firstChild?_eq_some_iff_exists.mpr hchild

/-- No paragraph begins with a code block. Readers of markdown make none that does. -/
def NoLeadingCode (doc : Document) : Prop :=
  ∀ i < doc.size, (doc.element i).kind = .paragraph →
    (doc.firstChild? i).all fun t => (doc.element t).kind ≠ .codeBlock

instance (doc : Document) : Decidable doc.NoLeadingCode :=
  inferInstanceAs (Decidable (∀ i < doc.size, (doc.element i).kind = .paragraph →
    (doc.firstChild? i).all fun t => (doc.element t).kind ≠ .codeBlock))

theorem NoLeadingCode.kind_ne (h : doc.NoLeadingCode) {i t : Nat}
    (hi : (doc.element i).kind = .paragraph) (ht : doc.firstChild? i = some t) :
    (doc.element t).kind ≠ .codeBlock := by
  have hsize : i < doc.size := by
    by_contra hge
    rw [element, node_eq_default (Nat.le_of_not_lt hge)] at hi
    cases hi
  have hall := h i hsize hi
  rw [ht, Option.all_some, decide_eq_true_eq] at hall
  exact hall

/-- A paragraph in a block quote whose first child is a text with an alert's token in front. -/
structure AlertAt (doc : Document) (i t : Nat) (alert : Alert) (rest : String) : Prop where
  paragraph : (doc.element i).kind = .paragraph
  quote : ∃ q, doc.parent? i = some q ∧ doc.element q = .blockQuote
  first : doc.firstChild? i = some t
  text : doc.element t = .text (alert.token ++ rest)

/-- An item whose first child is a paragraph, whose first child is a text with a task's marker in
front. -/
structure TaskAt (doc : Document) (i p t : Nat) (checked : Bool) (rest : String) : Prop where
  item : doc.element i = .item
  first : doc.firstChild? i = some p
  paragraph : (doc.element p).kind = .paragraph
  leading : doc.firstChild? p = some t
  text : ∃ marker ∈ TaskMarker.markers checked, doc.element t = .text (marker ++ rest)

end Document

namespace Render.Github

open Document (NoLeadingCode AlertAt TaskAt)

variable {doc : Document}

/-! ### Looking down -/

theorem paragraphAlert?_eq_some_iff (h : doc.NoLeadingCode) {i : Nat} {alert : Alert} :
    paragraphAlert? doc i = some alert ↔ ∃ t rest, doc.AlertAt i t alert rest := by
  unfold paragraphAlert?
  constructor
  · intro hsome
    split at hsome
    case isFalse => cases hsome
    case isTrue hcond =>
      obtain ⟨hparagraph, hquote⟩ := hcond
      obtain ⟨q, hparent, hkind⟩ := (Option.any_eq_true _ _).mp hquote
      obtain ⟨t, hfirst, hsome⟩ := Option.bind_eq_some_iff.mp hsome
      obtain ⟨literal, hliteral, hsome⟩ := Option.bind_eq_some_iff.mp hsome
      obtain ⟨⟨found, rest⟩, hparse, rfl⟩ := Option.map_eq_some_iff.mp hsome
      rw [Element.literal?_eq_some_iff (h.kind_ne hparagraph hfirst)] at hliteral
      refine ⟨t, rest, hparagraph, ⟨q, hparent, ?_⟩, hfirst, ?_⟩
      · exact Element.kind_eq_blockQuote_iff.mp (of_decide_eq_true hkind)
      · rw [hliteral, Alert.parse?_eq_some_iff.mp hparse]
  · rintro ⟨t, rest, hparagraph, ⟨q, hparent, hq⟩, hfirst, htext⟩
    have hquote : (doc.parent? i).any fun p => (doc.element p).kind = .blockQuote := by
      rw [hparent, Option.any_some, hq]
      rfl
    rw [if_pos ⟨hparagraph, hquote⟩, hfirst, Option.bind_some, htext, Element.literal?,
      Option.bind_some, Alert.parse?_token_append, Option.map_some]

theorem leadingLiteral?_eq_some_iff (h : doc.NoLeadingCode) {i : Nat} {literal : String} :
    leadingLiteral? doc i = some literal ↔
      ∃ p t, doc.firstChild? i = some p ∧ (doc.element p).kind = .paragraph ∧
        doc.firstChild? p = some t ∧ doc.element t = .text literal := by
  unfold leadingLiteral?
  constructor
  · intro hsome
    obtain ⟨p, hfirst, hsome⟩ := Option.bind_eq_some_iff.mp hsome
    split at hsome
    case isFalse => cases hsome
    case isTrue hparagraph =>
      obtain ⟨t, hleading, hliteral⟩ := Option.bind_eq_some_iff.mp hsome
      rw [Element.literal?_eq_some_iff (h.kind_ne hparagraph hleading)] at hliteral
      exact ⟨p, t, hfirst, hparagraph, hleading, hliteral⟩
  · rintro ⟨p, t, hfirst, hparagraph, hleading, htext⟩
    rw [hfirst, Option.bind_some, if_pos hparagraph, hleading, Option.bind_some, htext]
    rfl

theorem task_eq_some_iff (h : doc.NoLeadingCode) {i : Nat} (hi : doc.element i = .item)
    {checked : Bool} {rest : String} :
    (leadingLiteral? doc i).bind TaskMarker.parse? = some (checked, rest) ↔
      ∃ p t, doc.TaskAt i p t checked rest := by
  rw [Option.bind_eq_some_iff]
  constructor
  · rintro ⟨literal, hliteral, hparse⟩
    obtain ⟨p, t, hfirst, hparagraph, hleading, htext⟩ :=
      (leadingLiteral?_eq_some_iff h).mp hliteral
    obtain ⟨marker, hmem, rfl⟩ := TaskMarker.parse?_eq_some_iff.mp hparse
    exact ⟨p, t, hi, hfirst, hparagraph, hleading, marker, hmem, htext⟩
  · rintro ⟨p, t, -, hfirst, hparagraph, hleading, marker, hmem, htext⟩
    exact ⟨marker ++ rest,
      (leadingLiteral?_eq_some_iff h).mpr ⟨p, t, hfirst, hparagraph, hleading, htext⟩,
      TaskMarker.parse?_marker_append hmem rest⟩

/-! ### Looking up -/

theorem leadingParagraph?_eq_some_iff (linked : doc.Linked) {t p : Nat} :
    leadingParagraph? doc t = some p ↔
      (doc.element p).kind = .paragraph ∧ doc.firstChild? p = some t := by
  unfold leadingParagraph?
  rw [linked.firstChild?_eq_some_iff]
  cases hparent : doc.parent? t with
  | none => simp
  | some q =>
    simp only [Option.ite_none_right_eq_some, Option.some.injEq]
    constructor
    · rintro ⟨⟨hq, hindex⟩, rfl⟩
      exact ⟨hq, rfl, hindex⟩
    · rintro ⟨hp, rfl, hindex⟩
      exact ⟨⟨hp, hindex⟩, rfl⟩

theorem text_of_alertAt (linked : doc.Linked) {i t : Nat} {alert : Alert} {rest : String}
    (h : doc.AlertAt i t alert rest) : text doc t (alert.token ++ rest) = [richText rest] := by
  obtain ⟨q, hparent, hq⟩ := h.quote
  have hleading := (leadingParagraph?_eq_some_iff linked).mpr ⟨h.paragraph, h.first⟩
  simp only [text, hleading, leadingText, hparent, Option.map_some, hq, Element.kind,
    parse?_alert_richText, Alert.parse?_token_append]

theorem text_of_taskAt (linked : doc.Linked) {i p t : Nat} {checked : Bool} {rest literal : String}
    (h : doc.TaskAt i p t checked rest) (ht : doc.element t = .text literal) :
    text doc t literal = [TaskMarker.checkbox checked, richText rest] := by
  obtain ⟨marker, hmem, htext⟩ := h.text
  obtain ⟨hparent, hindex⟩ := linked.firstChild?_eq_some_iff.mp h.first
  have hleading := (leadingParagraph?_eq_some_iff linked).mpr ⟨h.paragraph, h.leading⟩
  have hparse := TaskMarker.parse?_marker_append hmem rest
  obtain rfl : literal = marker ++ rest := by
    rw [ht] at htext
    exact Element.text.inj htext
  simp only [text, hleading, leadingText, hparent, Option.map_some, h.item, Element.kind, hindex,
    if_true, parse?_marker_richText, hparse]

/-- A text that opens nothing is written whole. -/
theorem text_of_not_opening (linked : doc.Linked) {t : Nat} {literal : String}
    (ht : doc.element t = .text literal)
    (halert : ∀ i alert rest, ¬doc.AlertAt i t alert rest)
    (htask : ∀ i p checked rest, ¬doc.TaskAt i p t checked rest) :
    text doc t literal = [richText literal] := by
  unfold text
  cases hleading : leadingParagraph? doc t with
  | none => rfl
  | some p =>
    obtain ⟨hparagraph, hfirst⟩ := (leadingParagraph?_eq_some_iff linked).mp hleading
    simp only [leadingText]
    split
    case h_1 hquote =>
      obtain ⟨q, hparent, hq⟩ := Option.map_eq_some_iff.mp hquote
      rw [parse?_alert_richText]
      cases hparse : Alert.parse? literal with
      | none => rfl
      | some found =>
        rw [Alert.parse?_eq_some_iff.mp hparse] at ht
        exact absurd ⟨hparagraph, ⟨q, hparent, Element.kind_eq_blockQuote_iff.mp hq⟩, hfirst, ht⟩
          (halert p found.1 found.2)
    case h_2 hitem =>
      obtain ⟨i, hparent, hi⟩ := Option.map_eq_some_iff.mp hitem
      split
      case isFalse => rfl
      case isTrue hindex =>
        rw [parse?_marker_richText]
        cases hparse : TaskMarker.parse? literal with
        | none => rfl
        | some found =>
          obtain ⟨marker, hmem, rfl⟩ := TaskMarker.parse?_eq_some_iff.mp hparse
          have hchild := linked.firstChild?_eq_some_iff.mpr ⟨hparent, hindex⟩
          exact absurd
            ⟨Element.kind_eq_item_iff.mp hi, hchild, hparagraph, hfirst, marker, hmem, ht⟩
            (htask i p found.1 found.2)
    case h_3 => rfl

end Render.Github

end MarkdownPreview
