import MarkdownPreview.Proofs.Emoji.Escaped
import MarkdownPreview.Proofs.Render.Alerts

/-!
Documents that have nothing in them that the hook writes in a way of its own: no code, no
shortcodes, no alerts and no tasks. With the hook they are rendered as they are without it.
-/

namespace MarkdownPreview

open Render.Github (paragraphAlert? leadingLiteral? hookWith)

namespace Document

/-- A document without code blocks, without shortcodes in its texts, without alerts and without
tasks. -/
structure Ordinary (doc : Document) : Prop where
  no_code : ∀ i < doc.size, (doc.element i).kind ≠ .codeBlock
  no_shortcode : ∀ i < doc.size, ∀ literal, doc.element i = .text literal →
    Emoji.NoShortcode literal
  no_alert : ∀ i t alert rest, ¬doc.AlertAt i t alert rest
  no_task : ∀ i p t checked rest, ¬doc.TaskAt i p t checked rest

variable {doc : Document}

theorem noLeadingCode_of_no_code (h : ∀ i < doc.size, (doc.element i).kind ≠ .codeBlock) :
    doc.NoLeadingCode := by
  intro i hi hparagraph
  rw [Option.all_eq_true]
  intro t ht
  rw [decide_eq_true_eq]
  by_cases hsize : t < doc.size
  · exact h t hsize
  · rw [element_of_size_le (Nat.le_of_not_lt hsize)]
    decide

theorem lt_size_of_element_ne {i : Nat} (h : doc.element i ≠ .document) : i < doc.size := by
  by_contra hge
  exact h (element_of_size_le (Nat.le_of_not_lt hge))

theorem AlertAt.lt_size {i t : Nat} {alert : Alert} {rest : String}
    (hat : doc.AlertAt i t alert rest) : i < doc.size := by
  refine lt_size_of_element_ne fun hdocument => ?_
  have hparagraph := hat.paragraph
  rw [hdocument] at hparagraph
  cases hparagraph

theorem TaskAt.lt_size {i p t : Nat} {checked : Bool} {rest : String}
    (hat : doc.TaskAt i p t checked rest) : i < doc.size := by
  refine lt_size_of_element_ne fun hdocument => ?_
  have hitem := hat.item
  rw [hdocument] at hitem
  cases hitem

/-- What the hook looks for is not there. -/
theorem ordinary_iff : doc.Ordinary ↔
    (∀ i < doc.size, (doc.element i).kind ≠ .codeBlock) ∧
    (∀ i < doc.size, match doc.element i with
      | .text literal => Emoji.NoShortcode literal
      | _ => True) ∧
    (∀ i < doc.size, paragraphAlert? doc i = none) ∧
    ∀ i < doc.size, doc.element i = .item →
      (leadingLiteral? doc i).bind TaskMarker.parse? = none := by
  constructor
  · intro h
    have hleading := noLeadingCode_of_no_code h.no_code
    refine ⟨h.no_code, fun i hi => ?_, fun i _ => ?_, fun i _ hitem => ?_⟩
    · split
      · exact h.no_shortcode i hi _ ‹_›
      · trivial
    · exact (Render.paragraphAlert?_eq_none_iff hleading).mpr (h.no_alert i)
    · rw [Option.eq_none_iff_forall_ne_some]
      rintro ⟨checked, rest⟩ htask
      obtain ⟨p, t, hat⟩ := (Render.Github.task_eq_some_iff hleading hitem).mp htask
      exact h.no_task i p t checked rest hat
  · rintro ⟨hcode, hshortcode, halert, htask⟩
    have hleading := noLeadingCode_of_no_code hcode
    refine ⟨hcode, fun i hi literal htext => ?_, fun i t alert rest hat => ?_,
      fun i p t checked rest hat => ?_⟩
    · have hliteral := hshortcode i hi
      rw [htext] at hliteral
      exact hliteral
    · exact (Render.paragraphAlert?_eq_none_iff hleading).mp (halert i hat.lt_size) t alert rest hat
    · have hsome := (Render.Github.task_eq_some_iff hleading hat.item).mpr ⟨p, t, hat⟩
      rw [htask i hat.lt_size hat.item] at hsome
      cases hsome

instance (doc : Document) : Decidable doc.Ordinary :=
  @decidable_of_iff' _ _ ordinary_iff <|
    @instDecidableAnd _ _ inferInstance <|
      @instDecidableAnd _ _
        (@Nat.decidableBallLT doc.size _ fun i _ => by
          cases doc.element i <;> infer_instance)
        inferInstance

end Document

namespace Render

open Highlight (Highlighter)

variable {σ : Type} {stream : Stream σ}

/-! ### Hooks that agree -/

/-- If visits come out the same, so does the walk. -/
theorem walk_congr {hook hook' : Hook σ} {doc : Document}
    (h : ∀ i entering ids s,
      visit stream hook doc i entering ids s = visit stream hook' doc i entering ids s)
    (fuel : Nat) (stack : List Visit) (ids : HeadingIds) (s : σ) :
    walk stream hook doc fuel stack ids s = walk stream hook' doc fuel stack ids s := by
  induction fuel generalizing stack ids s with
  | zero => cases stack <;> rfl
  | succ fuel ih =>
    cases stack with
    | nil => rfl
    | cons v stack =>
      cases v with
      | enter i =>
        rw [walk, walk, h]
        rcases visit stream hook' doc i true ids s with ⟨_ | message, d, ids', s'⟩
        · exact ih (followUp doc i d ++ stack) ids' s'
        · rfl
      | leave i =>
        rw [walk, walk, h]
        rcases visit stream hook' doc i false ids s with ⟨_ | message, d, ids', s'⟩
        · exact ih stack ids' s'
        · rfl

/-! ### Visits -/

/-- The hook declines every visit but those to texts, which it writes as they are without it. -/
theorem output_of_ordinary {doc : Document} (linked : doc.Linked) (h : doc.Ordinary)
    (highlighter : Highlighter) (theme : String) (i : Nat) (entering : Bool) :
    Github.output highlighter theme doc i entering = none ∨
      ∃ literal, doc.element i = .text literal ∧
        Github.output highlighter theme doc i entering =
          some ([Html.escape literal], .children) := by
  by_cases hi : i < doc.size
  case neg =>
    left
    rw [Github.output, Document.element_of_size_le (Nat.le_of_not_lt hi)]
  case pos =>
    obtain ⟨hcode, -, halert, htask⟩ := Document.ordinary_iff.mp h
    have hleading := Document.noLeadingCode_of_no_code hcode
    unfold Github.output
    cases helement : doc.element i with
    | codeBlock info literal =>
      refine absurd ?_ (hcode i hi)
      rw [helement]
      rfl
    | blockQuote =>
      have hquote : ¬((doc.firstChild? i).bind (paragraphAlert? doc)).isSome := by
        rw [isSome_bind_paragraphAlert?_iff hleading]
        rintro ⟨p, t, alert, rest, -, hat⟩
        exact h.no_alert p t alert rest hat
      left
      simp only [Github.blockQuote, if_neg hquote]
    | paragraph tight =>
      left
      simp only [Github.paragraph, halert i hi, Option.map_none]
    | item =>
      left
      simp only [Github.item, htask i hi helement, Option.map_none]
    | text literal =>
      have hrich : Github.richText literal = Html.escape literal :=
        Emoji.substitute_escape (h.no_shortcode i hi literal helement)
      have htext := Github.text_of_not_opening linked helement (fun p => h.no_alert p i)
        (fun j p => h.no_task j p i)
      right
      refine ⟨literal, rfl, ?_⟩
      simp only [htext, hrich]
    | _ =>
      left
      rfl

/-- On a stream that never fails it does not matter who writes a text. -/
theorem visit_of_ordinary {text : σ → String} (hstream : stream.Keeps text) {doc : Document}
    (linked : doc.Linked) (h : doc.Ordinary) (highlighter : Highlighter) (theme : String)
    (i : Nat) (entering : Bool) (ids : HeadingIds) (s : σ) :
    visit stream (hookWith highlighter stream theme) doc i entering ids s =
      visit stream noHook doc i entering ids s := by
  rcases output_of_ordinary linked h highlighter theme i entering with
    hnone | ⟨literal, helement, hsome⟩
  · simp only [visit, hookWith, hnone, noHook]
  · obtain ⟨s', hput, -⟩ := hstream.putAll [Html.escape literal] s
    have hmarkup : markup doc i entering ids = ([Html.escape literal], ids) := by
      simp only [markup, helement, pieces]
    simp only [visit, hookWith, hsome, hput, noHook, Answer.declined, hmarkup, helement, descent]

/-- An ordinary document is written completely with the hook, whatever the theme, and what is
written and which identifiers are assigned to headings is as it is without a hook. -/
theorem render_hookWith_eq_noHook (stream : Stream σ) (text : σ → String)
    (hstream : stream.Keeps text) (highlighter : Highlighter) (theme : String)
    (events : List Event) (h : (Document.ofEvents events).Ordinary) (ids : HeadingIds) (s : σ) :
    ∃ ids' s',
      render stream (hookWith highlighter stream theme) (Document.ofEvents events) ids s =
        (none, ids', s') ∧
      render stream noHook (Document.ofEvents events) ids s = (none, ids', s') := by
  have linked := Document.linked_ofEvents events
  have hsame : render stream (hookWith highlighter stream theme) (Document.ofEvents events) ids s =
      render stream noHook (Document.ofEvents events) ids s :=
    walk_congr (visit_of_ordinary hstream linked h highlighter theme) _ _ ids s
  obtain ⟨s', hrender, -⟩ := render_eq_transcript hstream events
    (keepsTour_none (Document.ofEvents events)) ids s
  rw [hook_none] at hrender
  exact ⟨_, s', hsame.trans hrender, hrender⟩

/-- A document that comes close to all that the hook looks for. -/
theorem render_eq_noHook_near_misses :
    ∃ ids' s',
      render Stream.buffer (hookWith Highlight.highlighter Stream.buffer "dark")
          (Document.ofEvents
            [.start (.heading 1 none []), .text "a & b", .finish .heading,
              .start (.heading 2 none []), .text "a & b", .finish .heading,
              .start .blockQuote, .start .paragraph, .text "[!tip] :no-such-code: &:",
              .finish .paragraph,
              .start .paragraph, .code ":+1:", .finish .paragraph, .finish .blockQuote,
              .start .paragraph, .text "[!TIP] [x]", .finish .paragraph,
              .start (.list none), .start .item, .text "[y] c", .start (.list (some 3)),
              .start .item, .code "[x]", .text "[x]", .finish .item, .finish .list, .finish .item,
              .finish .list]) {} "" = (none, ids', s') ∧
        render Stream.buffer noHook
          (Document.ofEvents
            [.start (.heading 1 none []), .text "a & b", .finish .heading,
              .start (.heading 2 none []), .text "a & b", .finish .heading,
              .start .blockQuote, .start .paragraph, .text "[!tip] :no-such-code: &:",
              .finish .paragraph,
              .start .paragraph, .code ":+1:", .finish .paragraph, .finish .blockQuote,
              .start .paragraph, .text "[!TIP] [x]", .finish .paragraph,
              .start (.list none), .start .item, .text "[y] c", .start (.list (some 3)),
              .start .item, .code "[x]", .text "[x]", .finish .item, .finish .list, .finish .item,
              .finish .list]) {} "" = (none, ids', s') :=
  render_hookWith_eq_noHook Stream.buffer id keeps_buffer Highlight.highlighter "dark" _
    (by decide +kernel) {} ""

end Render

end MarkdownPreview
