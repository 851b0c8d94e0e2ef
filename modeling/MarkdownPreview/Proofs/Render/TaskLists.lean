import MarkdownPreview.Proofs.Render.Boxes
import MarkdownPreview.Proofs.Render.Transcript

/-!
Task lists as they are written. An item whose text has a marker in front is opened as a task and
has its box right after the opening, and there is no other box in the output unless raw HTML brings
it.
-/

namespace MarkdownPreview

namespace Render

open Highlight (Highlighter)
open Github (richText)
open Html (Boxless everyTag opensNoBox)

/-! ### Parts of a list -/

/-- What stands after the beginning of a concatenation begins in one of the parts. -/
theorem exists_part_of_flatMap_eq_append {α β : Type} {f : α → List β} {parts : List α}
    {before rest : List β} (h : parts.flatMap f = before ++ rest) (hne : rest ≠ []) :
    ∃ left part right start, parts = left ++ part :: right ∧ before = left.flatMap f ++ start ∧
      start.length < (f part).length ∧ f part ++ right.flatMap f = start ++ rest := by
  induction parts generalizing before with
  | nil => exact absurd (List.append_eq_nil_iff.mp h.symm).2 hne
  | cons part parts ih =>
    rw [List.flatMap_cons] at h
    by_cases hlt : before.length < (f part).length
    · exact ⟨[], part, parts, before, rfl, rfl, hlt, h⟩
    · -- the first part lies before it
      obtain ⟨before', rfl⟩ : f part <+: before :=
        List.prefix_of_prefix_length_le ⟨_, h⟩ ⟨rest, rfl⟩ (Nat.le_of_not_lt hlt)
      rw [List.append_assoc, List.append_cancel_left_eq] at h
      obtain ⟨left, part', right, start, rfl, rfl, hstart, heq⟩ := ih h
      exact ⟨part :: left, part', right, start, rfl, by rw [List.flatMap_cons, List.append_assoc],
        hstart, heq⟩

/-! ### Tasks and boxes -/

/-- How tasks are shown in the entries of a walk. -/
structure ShowsTasks (doc : Document) (entries : List Entry) : Prop where
  item : ∀ e ∈ entries, ∀ i, e.visit = .enter i → doc.element i = .item →
    (e.html = TaskMarker.itemOpening ↔ ∃ p t checked rest, doc.TaskAt i p t checked rest) ∧
      ((∀ p t checked rest, ¬doc.TaskAt i p t checked rest) → e.html = "<li>")
  task : ∀ i p t checked rest, doc.TaskAt i p t checked rest →
    .enter i ∈ entries.map Entry.visit → ∃ tight before after,
      doc.element p = .paragraph tight ∧ entries = before ++
        ⟨.enter i, true, [TaskMarker.itemOpening], none⟩ ::
        ⟨.enter p, false, if tight then [] else ["<p>"], none⟩ ::
        ⟨.enter t, true, [TaskMarker.checkbox checked, richText rest], none⟩ :: after
  box : ∀ before after, String.join (entries.map Entry.html) = before ++ "<input" ++ after →
    ∃ left e right start, entries = left ++ e :: right ∧
      before = String.join (left.map Entry.html) ++ start ∧ start.length < e.html.length ∧
      ((start = "" ∧ ∃ i p t checked rest, e.visit = .enter t ∧ doc.TaskAt i p t checked rest) ∨
        doc.element e.visit.node = .html e.html ∨ doc.element e.visit.node = .htmlBlock e.html)
  nodup : (entries.map Entry.visit).Nodup

section

variable {highlighter : Highlighter} {theme : String} {doc : Document} {ids : HeadingIds}
  {e : Entry}

theorem output_item (h : doc.NoLeadingCode) {i p t : Nat} {checked : Bool} {rest : String}
    (hat : doc.TaskAt i p t checked rest) :
    Github.output highlighter theme doc i true = some ([TaskMarker.itemOpening], .children) := by
  have htask := (Github.task_eq_some_iff h hat.item).mpr ⟨p, t, hat⟩
  rw [Github.output, hat.item]
  simp only [Github.item, htask, Option.map_some, if_true]

theorem html_item (h : doc.NoLeadingCode) {i : Nat} (hi : doc.element i = .item)
    (hnone : ∀ p t checked rest, ¬doc.TaskAt i p t checked rest)
    (he : e = Script.entry (Github.output highlighter theme) doc ids (.enter i)) :
    e.html = "<li>" := by
  have htask : (Github.leadingLiteral? doc i).bind TaskMarker.parse? = none := by
    rw [Option.eq_none_iff_forall_ne_some]
    rintro ⟨checked, rest⟩ hsome
    obtain ⟨p, t, hat⟩ := (Github.task_eq_some_iff h hi).mp hsome
    exact hnone p t checked rest hat
  have houtput : Github.output highlighter theme doc i true = none := by
    rw [Github.output, hi]
    simp only [Github.item, htask, Option.map_none]
  rw [he, Script.html_entry_of_declined houtput]
  simp only [markup, Visit.node, Visit.entering, hi, pieces, if_true, join_singleton]

theorem shows_item (h : doc.NoLeadingCode) {i : Nat} (hi : doc.element i = .item)
    (he : e = Script.entry (Github.output highlighter theme) doc ids (.enter i)) :
    (e.html = TaskMarker.itemOpening ↔ ∃ p t checked rest, doc.TaskAt i p t checked rest) ∧
      ((∀ p t checked rest, ¬doc.TaskAt i p t checked rest) → e.html = "<li>") := by
  refine ⟨⟨fun hhtml => ?_, ?_⟩, fun hnone => html_item h hi hnone he⟩
  · by_contra hnone
    have hplain := html_item h hi (fun p t checked rest hat => hnone ⟨p, t, checked, rest, hat⟩) he
    have hne : TaskMarker.itemOpening ≠ "<li>" := by decide
    exact hne (hhtml.symm.trans hplain)
  · rintro ⟨p, t, checked, rest, hat⟩
    rw [he, Script.html_entry_of_taken (output_item h hat), join_singleton]

theorem entry_item (h : doc.NoLeadingCode) {i p t : Nat} {checked : Bool} {rest : String}
    (hat : doc.TaskAt i p t checked rest) :
    Script.entry (Github.output highlighter theme) doc ids (.enter i) =
      ⟨.enter i, true, [TaskMarker.itemOpening], none⟩ := by
  have houtput : Github.output highlighter theme doc i true =
      some ([TaskMarker.itemOpening], .children) := output_item h hat
  simp only [Script.entry, Visit.node, Visit.entering, houtput]

/-- A task's paragraph is no alert's. -/
theorem entry_paragraph (linked : doc.Linked) (h : doc.NoLeadingCode) {i p t : Nat} {checked : Bool}
    {rest : String} (hat : doc.TaskAt i p t checked rest) {tight : Bool}
    (hp : doc.element p = .paragraph tight) :
    Script.entry (Github.output highlighter theme) doc ids (.enter p) =
      ⟨.enter p, false, if tight then [] else ["<p>"], none⟩ := by
  have halert : Github.paragraphAlert? doc p = none := by
    rw [Option.eq_none_iff_forall_ne_some]
    intro alert halert
    obtain ⟨t', rest', hat'⟩ := (Github.paragraphAlert?_eq_some_iff h).mp halert
    obtain ⟨q, hparent, hq⟩ := hat'.quote
    rw [(linked.firstChild?_eq_some_iff.mp hat.first).1, Option.some.injEq] at hparent
    rw [← hparent, hat.item] at hq
    cases hq
  have houtput : Github.output highlighter theme doc p true = none := by
    rw [Github.output, hp]
    simp only [Github.paragraph, halert, Option.map_none]
  simp only [Script.entry, Visit.node, Visit.entering, houtput, markup, hp, pieces, assigned?,
    if_true]

theorem entry_leading (linked : doc.Linked) {i p t : Nat} {checked : Bool} {rest : String}
    (hat : doc.TaskAt i p t checked rest) :
    Script.entry (Github.output highlighter theme) doc ids (.enter t) =
      ⟨.enter t, true, [TaskMarker.checkbox checked, richText rest], none⟩ := by
  obtain ⟨marker, -, ht⟩ := hat.text
  have houtput : Github.output highlighter theme doc t true =
      some ([TaskMarker.checkbox checked, richText rest], .children) := by
    rw [Github.output, ht]
    simp only [Github.text_of_taskAt linked hat ht]
  simp only [Script.entry, Visit.node, Visit.entering, houtput]

theorem html_leading (linked : doc.Linked) {i p t : Nat} {checked : Bool} {rest : String}
    (hat : doc.TaskAt i p t checked rest)
    (he : e = Script.entry (Github.output highlighter theme) doc ids (.enter t)) :
    e.html = TaskMarker.checkbox checked ++ richText rest := by
  rw [he, entry_leading linked hat, Entry.html, String.join_cons, join_singleton]

theorem eq_enter_of_taskAt {i p : Nat} {v : Visit} {checked : Bool} {rest : String}
    (hat : doc.TaskAt i p v.node checked rest) (hv : v ∈ tour doc) : v = .enter v.node := by
  obtain ⟨marker, -, ht⟩ := hat.text
  cases v with
  | enter t => rfl
  | leave t =>
    have hleaf : (doc.element t).isContainer = false := by
      rw [Visit.node] at ht
      rw [ht]
      rfl
    rw [isContainer_of_leave_mem _ _ hv] at hleaf
    cases hleaf

/-- The visits to a task begin with the item, its paragraph and its text. -/
theorem exists_tourTo_item (linked : doc.Linked) {i p t : Nat} {checked : Bool} {rest : String}
    (hat : doc.TaskAt i p t checked rest) {depth : Nat} (hdepth : doc.size ≤ i + depth) :
    ∃ after, tourTo doc depth i = .enter i :: .enter p :: .enter t :: after := by
  obtain ⟨hip, -⟩ := linked.parent_lt (linked.firstChild?_eq_some_iff.mp hat.first).1
  obtain ⟨hpt, hsize⟩ := linked.parent_lt (linked.firstChild?_eq_some_iff.mp hat.leading).1
  obtain ⟨others, hchildren⟩ := Document.firstChild?_eq_some_iff_exists.mp hat.first
  obtain ⟨texts, hchildren'⟩ := Document.firstChild?_eq_some_iff_exists.mp hat.leading
  obtain ⟨tight, hp⟩ := Element.kind_eq_paragraph_iff.mp hat.paragraph
  obtain ⟨marker, -, ht⟩ := hat.text
  obtain ⟨depth, rfl⟩ : ∃ d, depth = d + 3 := ⟨depth - 3, by omega⟩
  have hleaf : tourTo doc (depth + 1) t = [.enter t] := by
    rw [tourTo, ht]
    rfl
  have hparagraph : ∃ after, tourTo doc (depth + 2) p = .enter p :: .enter t :: after := by
    rw [tourTo, hp, hchildren', List.flatMap_cons, hleaf]
    exact ⟨_, rfl⟩
  obtain ⟨after, hparagraph⟩ := hparagraph
  rw [tourTo, hat.item, hchildren, List.flatMap_cons, hparagraph]
  exact ⟨_, rfl⟩

theorem shows_task (linked : doc.Linked) (h : doc.NoLeadingCode) {i p t : Nat} {checked : Bool}
    {rest : String} (hat : doc.TaskAt i p t checked rest) (hvisited : .enter i ∈ tour doc) :
    ∃ tight before after, doc.element p = .paragraph tight ∧
      Script.transcript (Github.output highlighter theme) doc ids = before ++
        ⟨.enter i, true, [TaskMarker.itemOpening], none⟩ ::
        ⟨.enter p, false, if tight then [] else ["<p>"], none⟩ ::
        ⟨.enter t, true, [TaskMarker.checkbox checked, richText rest], none⟩ :: after := by
  obtain ⟨tight, hp⟩ := Element.kind_eq_paragraph_iff.mp hat.paragraph
  obtain ⟨depth, before, after, hdepth, htour⟩ :=
    exists_tourTo_eq_append linked doc.size 0 (by omega) hvisited
  obtain ⟨rest', hitem⟩ := exists_tourTo_item linked hat hdepth
  rw [Script.transcript, tour, htour, hitem, List.append_assoc, entries_append]
  simp only [List.cons_append, Script.entries, entry_item h hat, entry_paragraph linked h hat hp,
    entry_leading linked hat]
  exact ⟨tight, _, _, hp, rfl⟩

/-! ### Where boxes begin -/

/-- A box's text has a box in front and no other. -/
theorem eq_nil_of_checkbox {checked : Bool} {rest : String} {start after right : List Char}
    (hstart : start.length < (TaskMarker.checkbox checked ++ richText rest).toList.length)
    (heq : (TaskMarker.checkbox checked ++ richText rest).toList ++ right =
      start ++ ("<input".toList ++ after)) : start = [] := by
  obtain ⟨cs, hcs, hboxless⟩ :
      ∃ cs, (TaskMarker.checkbox checked).toList = '<' :: cs ∧ everyTag opensNoBox cs := by
    refine ⟨(TaskMarker.checkbox checked).toList.tail, ?_⟩
    cases checked <;> decide
  rw [String.toList_append, hcs] at hstart heq
  cases start with
  | nil => rfl
  | cons c start =>
    have hrest : everyTag opensNoBox (cs ++ (richText rest).toList) :=
      Html.everyTag_append (fun _ => Html.opensNoBox_append) hboxless (Github.boxless_richText rest)
    have hle := Html.length_le_of_everyTag hrest (List.cons.inj heq).2
    simp only [List.cons_append, List.length_cons] at hstart
    omega

/-- What stands in the written text begins in what one of the entries wrote. -/
theorem exists_entry_of_join_eq {entries : List Entry} {before found after : String}
    (hfound : found.toList ≠ [])
    (h : String.join (entries.map Entry.html) = before ++ found ++ after) :
    ∃ left e right start, entries = left ++ e :: right ∧
      before = String.join (left.map Entry.html) ++ String.ofList start ∧
      start.length < e.html.toList.length ∧
      e.html.toList ++ right.flatMap (fun e => e.html.toList) =
        start ++ (found.toList ++ after.toList) := by
  have hchars (es : List Entry) : (String.join (es.map Entry.html)).toList =
      es.flatMap fun e => e.html.toList := by
    rw [String.toList_join, List.flatMap_map]
  have hflat : entries.flatMap (fun e => e.html.toList) =
      before.toList ++ (found.toList ++ after.toList) := by
    rw [← hchars, h, String.toList_append, String.toList_append, List.append_assoc]
  obtain ⟨left, e, right, start, hentries, hbefore, hstart, hrest⟩ :=
    exists_part_of_flatMap_eq_append hflat (List.append_ne_nil_of_left_ne_nil hfound _)
  refine ⟨left, e, right, start, hentries, ?_, hstart, hrest⟩
  rw [← String.toList_inj, hbefore, String.toList_append, hchars, String.toList_ofList]

theorem html_rawHtml {v : Visit} (h : (doc.element v.node).isHtml)
    (he : e = Script.entry (Github.output highlighter theme) doc ids v) :
    doc.element v.node = .html e.html ∨ doc.element v.node = .htmlBlock e.html := by
  cases hi : doc.element v.node with
  | html literal =>
    have houtput : Github.output highlighter theme doc v.node v.entering = none := by
      rw [Github.output, hi]
    rw [he, Script.html_entry_of_declined houtput]
    simp only [markup, hi, pieces, join_singleton, true_or]
  | htmlBlock literal =>
    have houtput : Github.output highlighter theme doc v.node v.entering = none := by
      rw [Github.output, hi]
    rw [he, Script.html_entry_of_declined houtput]
    simp only [markup, hi, pieces, join_singleton, or_true]
  | _ =>
    rw [hi] at h
    cases h

/-- A box begins only at the text of a task and in raw HTML. -/
theorem shows_box (linked : doc.Linked) (hhighlighter : highlighter.OnlySpans) {v : Visit}
    (hv : v ∈ tour doc) (he : e = Script.entry (Github.output highlighter theme) doc ids v)
    {start after right : List Char} (hstart : start.length < e.html.toList.length)
    (heq : e.html.toList ++ right = start ++ ("<input".toList ++ after)) :
    (start = [] ∧ ∃ i p t checked rest, v = .enter t ∧ doc.TaskAt i p t checked rest) ∨
      doc.element v.node = .html e.html ∨ doc.element v.node = .htmlBlock e.html := by
  have hbox : ¬Boxless e.html := fun hboxless =>
    absurd hstart (Nat.not_lt.mpr (Html.length_le_of_everyTag hboxless heq))
  by_cases htask : ∃ i p checked rest, doc.TaskAt i p v.node checked rest
  · obtain ⟨i, p, checked, rest, hat⟩ := htask
    have henter : v = .enter v.node := eq_enter_of_taskAt hat hv
    rw [henter] at he
    rw [html_leading linked hat he] at hstart heq
    exact .inl ⟨eq_nil_of_checkbox hstart heq, i, p, v.node, checked, rest, henter, hat⟩
  · cases houtput : Github.output highlighter theme doc v.node v.entering with
    | some taken =>
      refine absurd ?_ hbox
      rw [he, Script.html_entry_of_taken houtput]
      exact Github.boxless_output hhighlighter linked houtput
        fun j p checked rest hat => htask ⟨j, p, checked, rest, hat⟩
    | none =>
      by_cases hhtml : (doc.element v.node).isHtml
      · exact .inr (html_rawHtml hhtml he)
      · refine absurd ?_ hbox
        rw [he, Script.html_entry_of_declined houtput]
        exact boxless_markup doc v.node v.entering ids (Bool.eq_false_iff.mpr hhtml)

end

/-- The entries of a walk show tasks as they should. -/
theorem showsTasks_transcript {highlighter : Highlighter} (hhighlighter : highlighter.OnlySpans)
    (theme : String) {doc : Document} (linked : doc.Linked)
    (hpreorder : doc.Preorder [0] (List.range doc.size)) (h : doc.NoLeadingCode)
    (ids : HeadingIds) :
    ShowsTasks doc (Script.transcript (Github.output highlighter theme) doc ids) where
  item e hmem i hvisit hi := by
    obtain ⟨-, ids', he⟩ := exists_entry_eq hmem
    exact shows_item h hi (hvisit ▸ he)
  task i p t checked rest hat hvisited := by
    rw [visits_transcript] at hvisited
    exact shows_task linked h hat hvisited
  box before after heq := by
    obtain ⟨left, e, right, start, hentries, hbefore, hstart, hrest⟩ :=
      exists_entry_of_join_eq (by decide) heq
    have hmem : e ∈ Script.transcript (Github.output highlighter theme) doc ids := by
      rw [hentries]
      exact List.mem_append_right left List.mem_cons_self
    obtain ⟨hvisit, ids', he⟩ := exists_entry_eq hmem
    refine ⟨left, e, right, String.ofList start, hentries, hbefore, ?_, ?_⟩
    · rw [String.length_ofList]
      exact hstart
    · refine (shows_box linked hhighlighter hvisit he hstart hrest).imp_left ?_
      rintro ⟨rfl, htask⟩
      exact ⟨rfl, htask⟩
  nodup := by
    rw [visits_transcript]
    exact nodup_tour hpreorder

/-- A document with the hook is written completely. Its tasks are opened as tasks and have their
boxes, and every box in the output is one of these or stands in raw HTML. -/
theorem showsTasks_render_ofEvents {σ : Type} (stream : Stream σ) (text : σ → String)
    (hstream : stream.Keeps text) (highlighter : Highlighter)
    (hhighlighter : highlighter.OnlySpans) (theme : String) (events : List Event)
    (h : (Document.ofEvents events).NoLeadingCode) (ids : HeadingIds) (s : σ) :
    let entries :=
      Script.transcript (Github.output highlighter theme) (Document.ofEvents events) ids
    (∃ ids' s', render stream (Github.hookWith highlighter stream theme) (Document.ofEvents events)
        ids s = (none, ids', s') ∧ text s' = text s ++ String.join (entries.map Entry.html)) ∧
      entries.map Entry.visit = tour (Document.ofEvents events) ∧
      ShowsTasks (Document.ofEvents events) entries := by
  intro entries
  obtain ⟨s', hrender, htext⟩ := render_eq_transcript hstream events
    (keepsTour_output highlighter theme (Document.ofEvents events)) ids s
  refine ⟨⟨_, s', hrender, htext⟩, visits_transcript _ _ ids, ?_⟩
  exact showsTasks_transcript hhighlighter theme (Document.linked_ofEvents events)
    (Document.preorder_ofEvents events) h ids

/-- A loose task with a tight list inside of it, and raw HTML. -/
theorem showsTasks_nested_list :
    let doc := Document.ofEvents
      [.start (.list none), .start .item, .start .paragraph, .text "[ ] a :+1:", .finish .paragraph,
        .start (.list (some 1)), .start .item, .taskMarker true, .text " b < c", .finish .item,
        .start .item, .inlineHtml "<input>", .finish .item, .finish .list, .finish .item,
        .finish .list]
    ShowsTasks doc (Script.transcript (Github.output Highlight.highlighter "light") doc {}) :=
  (showsTasks_render_ofEvents Stream.buffer id keeps_buffer Highlight.highlighter
    Highlight.onlySpans_highlighter "light" _ (by decide +kernel) {} "").2.2

/-- Raw HTML may bring boxes where there are no tasks. -/
theorem not_forall_checkbox_of_taskAt :
    ¬∀ (events : List Event) (theme : String), (Document.ofEvents events).NoLeadingCode →
      ∀ e ∈ Script.transcript (Github.output Highlight.highlighter theme)
          (Document.ofEvents events) {},
        ∀ checked, e.html = TaskMarker.checkbox checked →
          ∃ i p t rest, (Document.ofEvents events).TaskAt i p t checked rest := by
  intro h
  let events : List Event :=
    [.start .htmlBlock, .html (TaskMarker.checkbox false), .finish .htmlBlock]
  have hmem : ⟨.enter 1, false, [TaskMarker.checkbox false], none⟩ ∈
      Script.transcript (Github.output Highlight.highlighter "light")
        (Document.ofEvents events) {} := by
    decide
  obtain ⟨i, p, t, rest, hat⟩ :=
    h events "light" (by decide) _ hmem false (join_singleton _)
  have hnone : ∀ j < (Document.ofEvents events).size,
      (Document.ofEvents events).element j ≠ .item := by
    decide
  by_cases hi : i < (Document.ofEvents events).size
  · exact hnone i hi hat.item
  · have hitem := hat.item
    rw [Document.element, Document.node_eq_default (Nat.le_of_not_lt hi)] at hitem
    cases hitem

end Render

end MarkdownPreview
