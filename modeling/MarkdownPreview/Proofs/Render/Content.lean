import MarkdownPreview.Proofs.Html.Reading
import MarkdownPreview.Proofs.Render.Transcript

/-!
What a reader finds in default markup: outside of tags what the document shows, and the tags that
its items have. Nothing that a document says is lost, and nothing of it is taken for a tag.
-/

namespace MarkdownPreview.Render

open Html (Item)

/-! ### The texts of a visit -/

/-- The text that a visit shows of an element's own values. -/
def shownText (entering : Bool) : Element → String
  | .text literal | .code literal | .codeBlock _ literal => literal
  | .footnoteReference label => label
  | .footnoteDefinition label => if entering then label else ""
  | .math true literal => "\\[" ++ literal ++ "\\]"
  | .math false literal => "\\(" ++ literal ++ "\\)"
  | _ => ""

/-- The number of line breaks that follow. -/
def lineBreaks (entering : Bool) : Element → Nat
  | .paragraph true => 0
  | .paragraph false | .heading .. | .item | .tableRow | .footnoteDefinition _ =>
    if entering then 0 else 1
  | .table _ => if entering then 1 else 2
  | .tableHead => if entering then 1 else 3
  | .blockQuote | .list _ | .codeBlock .. | .softBreak | .hardBreak | .rule => 1
  | _ => 0

def shown (entering : Bool) (e : Element) : String :=
  shownText entering e ++ String.ofList (List.replicate (lineBreaks entering e) '\n')

theorem join_content_items (doc : Document) (i : Nat) (entering : Bool) (assigned : Option String)
    (e : Element) :
    String.join ((items doc i entering assigned e).map Item.content) = shown entering e := by
  rw [← String.toList_inj]
  cases e with
  | paragraph tight => cases tight <;> cases entering <;> rfl
  | list start => cases start <;> cases entering <;> rfl
  | math display literal => cases display <;> simp [items, shown, shownText, lineBreaks]
  | _ => cases entering <;> simp [items, shown, shownText, lineBreaks]

/-! ### Whole documents -/

def visitItems (doc : Document) (v : Visit) (assigned : Option String) : List Item :=
  items doc v.node v.entering assigned (doc.element v.node)

/-- The items of a document: those of the visits of the walk, in order. -/
def documentItems (doc : Document) (ids : HeadingIds) : List Item :=
  (Script.none.transcript doc ids).flatMap fun e => visitItems doc e.visit e.assigned

theorem wellFormed_documentItems (doc : Document) (ids : HeadingIds) :
    ∀ item ∈ documentItems doc ids, item.WellFormed := by
  intro item hitem
  obtain ⟨e, -, he⟩ := List.mem_flatMap.mp hitem
  exact (known_items doc _ _ _ _ item he).wellFormed

/-- Written visit by visit or item by item. -/
theorem join_map_documentItems (doc : Document) (ids : HeadingIds) (f : Item → String) :
    String.join ((documentItems doc ids).map f) =
      String.join ((Script.none.transcript doc ids).map fun e =>
        String.join ((visitItems doc e.visit e.assigned).map f)) := by
  rw [documentItems]
  induction Script.none.transcript doc ids with
  | nil => rfl
  | cons e entries ih =>
    rw [List.flatMap_cons, List.map_append, String.join_append, ih, List.map_cons,
      String.join_cons]

/-- What default markup assigns at a visit is the identifier that the visit's items need. -/
theorem join_markup_visit (doc : Document) (ids : HeadingIds) (v : Visit)
    (h : (doc.element v.node).isHtml = false) :
    String.join (markup doc v.node v.entering ids).1 =
      String.join ((visitItems doc v (assigned? doc ids v)).map Item.markup) := by
  refine join_markup doc v.node v.entering ids h fun level classes hentering hheading => ?_
  cases v with
  | enter i =>
    change doc.element i = _ at hheading
    rw [assigned?, hheading]
    rfl
  | leave i => cases hentering

theorem html_transcript {doc : Document} (h : ∀ i < doc.size, (doc.element i).isHtml = false)
    {ids : HeadingIds} {e : Entry} (he : e ∈ Script.none.transcript doc ids) :
    e.html = String.join ((visitItems doc e.visit e.assigned).map Item.markup) := by
  obtain ⟨-, ids', heq⟩ := exists_entry_eq he
  have hhtml : (doc.element e.visit.node).isHtml = false := by
    by_cases hsize : e.visit.node < doc.size
    · exact h _ hsize
    · rw [Document.element_of_size_le (Nat.le_of_not_lt hsize)]
      rfl
  have hassigned : e.assigned = assigned? doc ids' e.visit := by
    rw [heq]
    rfl
  have hmarkup : e.html = String.join (markup doc e.visit.node e.visit.entering ids').1 := by
    rw [heq]
    rfl
  rw [hassigned, hmarkup, join_markup_visit doc ids' e.visit hhtml]

theorem join_html_transcript {doc : Document}
    (h : ∀ i < doc.size, (doc.element i).isHtml = false) (ids : HeadingIds) :
    String.join ((Script.none.transcript doc ids).map Entry.html) =
      String.join ((documentItems doc ids).map Item.markup) := by
  rw [join_map_documentItems, List.map_congr_left fun e he => html_transcript h he]

theorem join_content_documentItems (doc : Document) (ids : HeadingIds) :
    String.join ((documentItems doc ids).map Item.content) =
      String.join ((tour doc).map fun v => shown v.entering (doc.element v.node)) := by
  simp only [join_map_documentItems, visitItems, join_content_items]
  rw [← visits_transcript Script.none doc ids, List.map_map]
  rfl

variable {σ : Type}

/-- On a stream that never fails, a document without raw HTML is written so that what it shows is
left once the tags are cut out, and so that the tags that are cut out are its own. -/
theorem content_render_noHook (stream : Stream σ) (text : σ → String) (hstream : stream.Keeps text)
    (events : List Event) (h : ∀ i < (Document.ofEvents events).size,
      ((Document.ofEvents events).element i).isHtml = false) (ids : HeadingIds) (s : σ) :
    ∃ ids' s' html, render stream noHook (.ofEvents events) ids s = (none, ids', s') ∧
      text s' = text s ++ html ∧
      Html.unescape (Html.outsideTags html) =
        String.join ((tour (.ofEvents events)).map fun v =>
          shown v.entering ((Document.ofEvents events).element v.node)) ∧
      Html.tagsIn html = ((documentItems (.ofEvents events) ids).filterMap Item.tag?).map some := by
  obtain ⟨s', hrender, htext⟩ :=
    render_eq_transcript hstream events (keepsTour_none (.ofEvents events)) ids s
  rw [hook_none] at hrender
  have hwellFormed := wellFormed_documentItems (.ofEvents events) ids
  refine ⟨_, s', _, hrender, htext, ?_, ?_⟩
  · rw [join_html_transcript h, Html.unescape_outsideTags hwellFormed, join_content_documentItems]
  · rw [join_html_transcript h, Html.tagsIn_join_markup hwellFormed]

/-- Values that look like markup stay what they are. -/
theorem content_render_lookalikes :
    ∃ ids' s' html, render Stream.buffer noHook (.ofEvents
        [.start (.heading 2 none []), .text "a </h2>", .finish .heading,
          .start .paragraph, .text "&lt;", .softBreak, .code "<p>",
          .start (.link "\">" "it's"), .math false "'", .finish .link,
          .start (.image "/&" ""), .text "\"<&amp;>\"", .finish .image, .finish .paragraph])
        {} "" = (none, ids', s') ∧
      id s' = "" ++ html ∧
      Html.unescape (Html.outsideTags html) = "a </h2>\n&lt;\n<p>\\('\\)\n" ∧
      Html.tagsIn html =
        [some (.opening "h2" [⟨"id", "a-h2"⟩]), some (.closing "h2"), some (.opening "p" []),
          some (.opening "code" []), some (.closing "code"),
          some (.opening "a" [⟨"href", "\">"⟩, ⟨"title", "it's"⟩]),
          some (.opening "span" [⟨"class", "math inline"⟩]), some (.closing "span"),
          some (.closing "a"), some (.opening "img" [⟨"src", "/&"⟩, ⟨"alt", "\"<&amp;>\""⟩]),
          some (.closing "p")] := by
  obtain ⟨ids', s', html, hrender, hhtml, htext, htags⟩ :=
    content_render_noHook Stream.buffer id keeps_buffer
      [.start (.heading 2 none []), .text "a </h2>", .finish .heading,
        .start .paragraph, .text "&lt;", .softBreak, .code "<p>",
        .start (.link "\">" "it's"), .math false "'", .finish .link,
        .start (.image "/&" ""), .text "\"<&amp;>\"", .finish .image, .finish .paragraph]
      (by decide +kernel) {} ""
  exact ⟨ids', s', html, hrender, hhtml, htext.trans (by decide +kernel),
    htags.trans (by decide +kernel)⟩

end MarkdownPreview.Render
