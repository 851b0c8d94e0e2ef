import MarkdownPreview.Proofs.Render.Openings
import MarkdownPreview.Proofs.Render.Transcript

/-!
Alerts as they are written. The paragraph that opens an alert is written with the alert's opening
and closing, the text without the token, and the block quote without tags; and all other
paragraphs, texts and block quotes are written as they are without alerts.
-/

namespace MarkdownPreview

/-! ### Openings -/

namespace Template

/-- An opening tells its alert's name after a start that is common to all. -/
theorem exists_renderAlert_eq (alert : Alert) :
    ∃ rest, renderAlert alert =
      .ok ("<div class=\"markdown-alert markdown-alert-" ++
        ((Value.string alert.name).print ++ rest)) := by
  rw [renderAlert_eq]
  simp only [fill, alertOpening, List.map_cons, List.map_nil, String.join_cons]
  exact ⟨_, rfl⟩

/-- The names of alerts differ in their first letters. -/
theorem find?_firstLetter (alert : Alert) :
    ∃ letter, (Value.string alert.name).print.toList.head? = some letter ∧
      (Alert.all.find? fun a => a.name.toList.head? == some letter) = some alert := by
  cases alert
  case note => exact ⟨'n', by decide⟩
  case tip => exact ⟨'t', by decide⟩
  case important => exact ⟨'i', by decide⟩
  case warning => exact ⟨'w', by decide⟩
  case caution => exact ⟨'c', by decide⟩
  case quote => exact ⟨'b', by decide⟩

/-- The openings of alerts differ from each other and from those of other paragraphs. -/
theorem renderAlert_inj {alert alert' : Alert} {html : String} (h : renderAlert alert = .ok html)
    (h' : renderAlert alert' = .ok html) : alert = alert' := by
  obtain ⟨rest, hrest⟩ := exists_renderAlert_eq alert
  obtain ⟨rest', hrest'⟩ := exists_renderAlert_eq alert'
  obtain ⟨letter, hletter, hfind⟩ := find?_firstLetter alert
  obtain ⟨letter', hletter', hfind'⟩ := find?_firstLetter alert'
  have heq := Except.ok.inj (((hrest.symm.trans h).trans h'.symm).trans hrest')
  have hheads := congrArg (fun s => s.toList.head?) (String.append_right_inj _ |>.mp heq)
  simp only [String.toList_append, List.head?_append, hletter, hletter', Option.some_or] at hheads
  rw [hheads, hfind'] at hfind
  exact (Option.some.inj hfind).symm

theorem renderAlert_ne (alert : Alert) (tight : Bool) :
    renderAlert alert ≠ .ok (if tight then "" else "<p>") := by
  obtain ⟨rest, hrest⟩ := exists_renderAlert_eq alert
  rw [hrest]
  intro h
  have hlength := congrArg String.length (Except.ok.inj h)
  have hstart : 3 < "<div class=\"markdown-alert markdown-alert-".length := by decide
  have hshort : (if tight then "" else "<p>").length ≤ 3 := by cases tight <;> decide
  rw [String.length_append] at hlength
  omega

end Template

namespace Render

open Highlight (Highlighter)
open Github (richText paragraphAlert?)

/-- What is written at the visits that alerts may have to do with. -/
structure ShowsAlerts (doc : Document) (e : Entry) : Prop where
  entering : ∀ i tight, e.visit = .enter i → doc.element i = .paragraph tight →
    (∀ alert, Template.renderAlert alert = .ok e.html ↔ ∃ t rest, doc.AlertAt i t alert rest) ∧
      ((∀ t alert rest, ¬doc.AlertAt i t alert rest) → e.html = if tight then "" else "<p>")
  leaving : ∀ i tight, e.visit = .leave i → doc.element i = .paragraph tight →
    (e.html = Alert.closing ↔ ∃ t alert rest, doc.AlertAt i t alert rest) ∧
      ((∀ t alert rest, ¬doc.AlertAt i t alert rest) → e.html = if tight then "" else "</p>\n")
  text : ∀ t literal, e.visit = .enter t → doc.element t = .text literal →
    (∀ i alert rest, doc.AlertAt i t alert rest →
        literal = alert.token ++ rest ∧ e.html = richText rest) ∧
      (∀ i p checked rest, doc.TaskAt i p t checked rest →
        e.html = TaskMarker.checkbox checked ++ richText rest) ∧
      ((∀ i alert rest, ¬doc.AlertAt i t alert rest) →
        (∀ i p checked rest, ¬doc.TaskAt i p t checked rest) → e.html = richText literal)
  blockQuote : ∀ q, e.visit.node = q → doc.element q = .blockQuote →
    (e.html = "" ↔ ∃ i t alert rest, doc.firstChild? q = some i ∧ doc.AlertAt i t alert rest) ∧
      ((∀ i t alert rest, doc.firstChild? q = some i → ¬doc.AlertAt i t alert rest) →
        e.html = if e.visit.entering then "<blockquote>\n" else "</blockquote>\n")

section

variable {doc : Document}

/-- No alert is found where none is opened. -/
theorem paragraphAlert?_eq_none_iff (h : doc.NoLeadingCode) {i : Nat} :
    paragraphAlert? doc i = none ↔ ∀ t alert rest, ¬doc.AlertAt i t alert rest := by
  rw [Option.eq_none_iff_forall_ne_some]
  constructor
  · intro hnone t alert rest hat
    exact hnone alert ((Github.paragraphAlert?_eq_some_iff h).mpr ⟨t, rest, hat⟩)
  · intro hnone alert halert
    obtain ⟨t, rest, hat⟩ := (Github.paragraphAlert?_eq_some_iff h).mp halert
    exact hnone t alert rest hat

theorem isSome_bind_paragraphAlert?_iff (h : doc.NoLeadingCode) {q : Nat} :
    ((doc.firstChild? q).bind (paragraphAlert? doc)).isSome ↔
      ∃ i t alert rest, doc.firstChild? q = some i ∧ doc.AlertAt i t alert rest := by
  rw [Option.isSome_iff_exists]
  constructor
  · rintro ⟨alert, halert⟩
    obtain ⟨i, hfirst, halert⟩ := Option.bind_eq_some_iff.mp halert
    obtain ⟨t, rest, hat⟩ := (Github.paragraphAlert?_eq_some_iff h).mp halert
    exact ⟨i, t, alert, rest, hfirst, hat⟩
  · rintro ⟨i, t, alert, rest, hfirst, hat⟩
    exact ⟨alert, Option.bind_eq_some_iff.mpr
      ⟨i, hfirst, (Github.paragraphAlert?_eq_some_iff h).mpr ⟨t, rest, hat⟩⟩⟩

end

/-! ### Entries -/

section

variable {highlighter : Highlighter} {theme : String} {doc : Document} {ids : HeadingIds}
  {e : Entry}

theorem html_entering_alert {i : Nat} {tight : Bool} (hi : doc.element i = .paragraph tight)
    {alert : Alert} (halert : paragraphAlert? doc i = some alert)
    (he : e = Script.entry (Github.output highlighter theme) doc ids (.enter i)) :
    Template.renderAlert alert = .ok e.html := by
  obtain ⟨html, hrender, -⟩ := Template.shifts_renderAlert alert
  have houtput : Github.output highlighter theme doc i true = some ([html], .children) := by
    rw [Github.output, hi]
    simp only [Github.paragraph, halert, Option.map_some, if_true, hrender]
    rfl
  rw [he, Script.html_entry_of_taken houtput, join_singleton, hrender]

theorem html_leaving_alert {i : Nat} {tight : Bool} (hi : doc.element i = .paragraph tight)
    {alert : Alert} (halert : paragraphAlert? doc i = some alert)
    (he : e = Script.entry (Github.output highlighter theme) doc ids (.leave i)) :
    e.html = Alert.closing := by
  have houtput :
      Github.output highlighter theme doc i false = some ([Alert.closing], .children) := by
    rw [Github.output, hi]
    simp only [Github.paragraph, halert, Option.map_some]
    rfl
  rw [he, Script.html_entry_of_taken houtput, join_singleton]

theorem html_paragraph {v : Visit} {tight : Bool} (hi : doc.element v.node = .paragraph tight)
    (hnone : paragraphAlert? doc v.node = none)
    (he : e = Script.entry (Github.output highlighter theme) doc ids v) :
    e.html = if tight then "" else if v.entering then "<p>" else "</p>\n" := by
  have houtput : Github.output highlighter theme doc v.node v.entering = none := by
    rw [Github.output, hi]
    simp only [Github.paragraph, hnone, Option.map_none]
  rw [he, Script.html_entry_of_declined houtput]
  simp only [markup, hi, pieces]
  cases tight <;> cases v.entering <;> rfl

theorem html_text {t : Nat} {literal : String} (ht : doc.element t = .text literal)
    (he : e = Script.entry (Github.output highlighter theme) doc ids (.enter t)) :
    e.html = String.join (Github.text doc t literal) := by
  have houtput : Github.output highlighter theme doc t true =
      some (Github.text doc t literal, .children) := by
    rw [Github.output, ht]
  rw [he, Script.html_entry_of_taken houtput]

theorem html_blockQuote {v : Visit} (hq : doc.element v.node = .blockQuote)
    (he : e = Script.entry (Github.output highlighter theme) doc ids v) :
    e.html = if ((doc.firstChild? v.node).bind (paragraphAlert? doc)).isSome then ""
      else if v.entering then "<blockquote>\n" else "</blockquote>\n" := by
  have houtput : Github.output highlighter theme doc v.node v.entering =
      Github.blockQuote doc v.node := by
    rw [Github.output, hq]
  by_cases halert : ((doc.firstChild? v.node).bind (paragraphAlert? doc)).isSome
  · rw [Github.blockQuote, if_pos halert] at houtput
    rw [he, Script.html_entry_of_taken houtput, if_pos halert]
    rfl
  · rw [Github.blockQuote, if_neg halert] at houtput
    rw [he, Script.html_entry_of_declined houtput, if_neg halert]
    simp only [markup, hq, pieces]
    cases v.entering <;> rfl

/-! #### What each visit shows -/

theorem shows_entering (h : doc.NoLeadingCode) {i : Nat} {tight : Bool}
    (hi : doc.element i = .paragraph tight)
    (he : e = Script.entry (Github.output highlighter theme) doc ids (.enter i)) :
    (∀ alert, Template.renderAlert alert = .ok e.html ↔ ∃ t rest, doc.AlertAt i t alert rest) ∧
      ((∀ t alert rest, ¬doc.AlertAt i t alert rest) → e.html = if tight then "" else "<p>") := by
  cases halert : paragraphAlert? doc i with
  | none =>
    have hhtml : e.html = if tight then "" else "<p>" := html_paragraph hi halert he
    rw [paragraphAlert?_eq_none_iff h] at halert
    refine ⟨fun alert => ⟨fun hrender => ?_, ?_⟩, fun _ => hhtml⟩
    · rw [hhtml] at hrender
      exact absurd hrender (Template.renderAlert_ne alert tight)
    · rintro ⟨t, rest, hat⟩
      exact absurd hat (halert t alert rest)
  | some found =>
    have hrender := html_entering_alert hi halert he
    refine ⟨fun alert => ?_, fun hnone => ?_⟩
    · rw [← Github.paragraphAlert?_eq_some_iff h, halert, Option.some.injEq]
      constructor
      · exact fun hrender' => Template.renderAlert_inj hrender hrender'
      · rintro rfl
        exact hrender
    · rw [(paragraphAlert?_eq_none_iff h).mpr hnone] at halert
      cases halert

theorem shows_leaving (h : doc.NoLeadingCode) {i : Nat} {tight : Bool}
    (hi : doc.element i = .paragraph tight)
    (he : e = Script.entry (Github.output highlighter theme) doc ids (.leave i)) :
    (e.html = Alert.closing ↔ ∃ t alert rest, doc.AlertAt i t alert rest) ∧
      ((∀ t alert rest, ¬doc.AlertAt i t alert rest) →
        e.html = if tight then "" else "</p>\n") := by
  cases halert : paragraphAlert? doc i with
  | none =>
    have hhtml : e.html = if tight then "" else "</p>\n" := html_paragraph hi halert he
    have hclosing : (if tight then "" else "</p>\n") ≠ Alert.closing := by
      cases tight <;> decide
    rw [paragraphAlert?_eq_none_iff h] at halert
    refine ⟨⟨fun hrender => ?_, ?_⟩, fun _ => hhtml⟩
    · exact absurd (hhtml.symm.trans hrender) hclosing
    · rintro ⟨t, alert, rest, hat⟩
      exact absurd hat (halert t alert rest)
  | some found =>
    obtain ⟨t, rest, hat⟩ := (Github.paragraphAlert?_eq_some_iff h).mp halert
    exact ⟨⟨fun _ => ⟨t, found, rest, hat⟩, fun _ => html_leaving_alert hi halert he⟩,
      fun hnone => absurd hat (hnone t found rest)⟩

theorem shows_text (linked : doc.Linked) {t : Nat} {literal : String}
    (ht : doc.element t = .text literal)
    (he : e = Script.entry (Github.output highlighter theme) doc ids (.enter t)) :
    (∀ i alert rest, doc.AlertAt i t alert rest →
        literal = alert.token ++ rest ∧ e.html = richText rest) ∧
      (∀ i p checked rest, doc.TaskAt i p t checked rest →
        e.html = TaskMarker.checkbox checked ++ richText rest) ∧
      ((∀ i alert rest, ¬doc.AlertAt i t alert rest) →
        (∀ i p checked rest, ¬doc.TaskAt i p t checked rest) → e.html = richText literal) := by
  rw [html_text ht he]
  refine ⟨fun i alert rest hat => ?_, fun i p checked rest hat => ?_, fun halert htask => ?_⟩
  · have hliteral : literal = alert.token ++ rest := Element.text.inj (ht.symm.trans hat.text)
    rw [hliteral, Github.text_of_alertAt linked hat, join_singleton]
    exact ⟨rfl, rfl⟩
  · rw [Github.text_of_taskAt linked hat ht, String.join_cons, join_singleton]
  · rw [Github.text_of_not_opening linked ht halert htask, join_singleton]

theorem shows_blockQuote (h : doc.NoLeadingCode) {v : Visit}
    (hq : doc.element v.node = .blockQuote)
    (he : e = Script.entry (Github.output highlighter theme) doc ids v) :
    (e.html = "" ↔
        ∃ i t alert rest, doc.firstChild? v.node = some i ∧ doc.AlertAt i t alert rest) ∧
      ((∀ i t alert rest, doc.firstChild? v.node = some i → ¬doc.AlertAt i t alert rest) →
        e.html = if v.entering then "<blockquote>\n" else "</blockquote>\n") := by
  have htags : (if v.entering then "<blockquote>\n" else "</blockquote>\n") ≠ "" := by
    cases v.entering <;> decide
  rw [html_blockQuote hq he, ← isSome_bind_paragraphAlert?_iff h]
  by_cases halert : ((doc.firstChild? v.node).bind (paragraphAlert? doc)).isSome
  · rw [if_pos halert]
    obtain ⟨i, t, alert, rest, hfirst, hat⟩ := (isSome_bind_paragraphAlert?_iff h).mp halert
    exact ⟨⟨fun _ => halert, fun _ => rfl⟩,
      fun hnone => absurd hat (hnone i t alert rest hfirst)⟩
  · rw [if_neg halert]
    exact ⟨⟨fun hempty => absurd hempty htags, fun hsome => absurd hsome halert⟩, fun _ => rfl⟩

/-- Every visit shows alerts as it should, whatever the counts of headings are. -/
theorem showsAlerts_entry (linked : doc.Linked) (h : doc.NoLeadingCode) {v : Visit}
    (he : e = Script.entry (Github.output highlighter theme) doc ids v) : ShowsAlerts doc e := by
  have hvisit : e.visit = v := by rw [he, Script.visit_entry]
  refine ⟨?entering, ?leaving, ?text, ?blockQuote⟩
  case entering =>
    intro i tight hv hi
    exact shows_entering h hi (by rw [he, ← hv, hvisit])
  case leaving =>
    intro i tight hv hi
    exact shows_leaving h hi (by rw [he, ← hv, hvisit])
  case text =>
    intro t literal hv ht
    exact shows_text linked ht (by rw [he, ← hv, hvisit])
  case blockQuote =>
    rintro q hv hq
    rw [hvisit] at hv ⊢
    subst hv
    exact shows_blockQuote h hq he

end

/-- A document with the hook is written completely, and alerts are shown as their openings ask
for. -/
theorem showsAlerts_render_ofEvents {σ : Type} (stream : Stream σ) (text : σ → String)
    (hstream : stream.Keeps text) (highlighter : Highlighter) (theme : String)
    (events : List Event) (h : (Document.ofEvents events).NoLeadingCode) (ids : HeadingIds)
    (s : σ) :
    let entries :=
      Script.transcript (Github.output highlighter theme) (Document.ofEvents events) ids
    (∃ ids' s', render stream (Github.hookWith highlighter stream theme) (Document.ofEvents events)
        ids s = (none, ids', s') ∧ text s' = text s ++ String.join (entries.map Entry.html)) ∧
      entries.map Entry.visit = tour (Document.ofEvents events) ∧
      ∀ e ∈ entries, ShowsAlerts (Document.ofEvents events) e := by
  intro entries
  refine ⟨?_, visits_transcript _ _ ids, fun e he => ?_⟩
  · obtain ⟨s', hrender, htext⟩ := render_eq_transcript hstream events
      (keepsTour_output highlighter theme (Document.ofEvents events)) ids s
    exact ⟨_, s', hrender, htext⟩
  · obtain ⟨-, ids', hentry⟩ := exists_entry_eq he
    exact showsAlerts_entry (Document.linked_ofEvents events) h hentry

/-- A tip with a shortcode in it, and a quote inside of it that is no alert. -/
theorem showsAlerts_nested_quote :
    let doc := Document.ofEvents
      [.start .blockQuote, .start .paragraph, .text "[!TIP] a :+1: < b", .finish .paragraph,
        .start .blockQuote, .start .paragraph, .text "[!tip]", .finish .paragraph,
        .finish .blockQuote, .finish .blockQuote]
    ∀ e ∈ Script.transcript (Github.output Highlight.highlighter "light") doc {},
      ShowsAlerts doc e :=
  (showsAlerts_render_ofEvents Stream.buffer id keeps_buffer Highlight.highlighter "light" _
    (by decide) {} "").2.2

/-- A text that opens no alert may open a task, and then its marker is not written. -/
theorem not_forall_html_eq_richText :
    ¬∀ (events : List Event) (theme : String), (Document.ofEvents events).NoLeadingCode →
      ∀ e ∈ Script.transcript (Github.output Highlight.highlighter theme)
          (Document.ofEvents events) {},
        ∀ t literal, e.visit = .enter t → (Document.ofEvents events).element t = .text literal →
          (∀ i alert rest, ¬(Document.ofEvents events).AlertAt i t alert rest) →
            e.html = richText literal := by
  intro h
  let events : List Event :=
    [.start (.list none), .start .item, .text "[x] done", .finish .item, .finish .list]
  have hmem : ⟨.enter 4, true, [TaskMarker.checkbox true, " done"], none⟩ ∈
      Script.transcript (Github.output Highlight.highlighter "light")
        (Document.ofEvents events) {} := by
    decide
  have hhtml := h events "light" (by decide) _ hmem 4 "[x] done" rfl
    (by decide) ?_
  · revert hhtml
    decide
  · rintro i alert rest ⟨-, -, -, htext⟩
    have helement : (Document.ofEvents events).element 4 = .text "[x] done" := by decide
    have hnone : Alert.parse? "[x] done" = none := by decide
    rw [Element.text.inj (helement.symm.trans htext), Alert.parse?_token_append] at hnone
    cases hnone

end Render

end MarkdownPreview
