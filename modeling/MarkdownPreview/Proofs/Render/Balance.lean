import MarkdownPreview.Proofs.Render.Github
import MarkdownPreview.Proofs.Render.Recursion

/-!
Documents are written as balanced markup. The visits to a node and all below it leave nothing open
that was not open before, but for a table's body: the head leaves it open and the table closes it.
So it takes one head in every table, and none outside of tables.
-/

namespace MarkdownPreview

open Html (Shifts Balanced)

/-- A stream that never fails, with all the text that is in it. -/
structure Stream.Keeps {σ : Type} (stream : Stream σ) (text : σ → String) : Prop where
  write : ∀ piece s, ∃ s', stream.write piece s = (none, s') ∧ text s' = text s ++ piece
  flush : ∀ s, ∃ s', stream.flush s = (none, s') ∧ text s' = text s

/-- A document without raw HTML whose tables have one head each, and whose heads are in tables. -/
structure Document.Orderly (doc : Document) : Prop where
  isHtml_eq_false : ∀ i < doc.size, (doc.element i).isHtml = false
  countP_head : ∀ i < doc.size, (doc.element i).isTable →
    (doc.children i).countP (fun c => doc.element c = .tableHead) = 1
  isTable_parent : ∀ i < doc.size, doc.element i = .tableHead →
    (doc.parent? i).any fun p => (doc.element p).isTable

theorem Stream.Keeps.put {σ : Type} {stream : Stream σ} {text : σ → String}
    (h : stream.Keeps text) (piece : String) (s : σ) :
    ∃ s', stream.put piece s = (none, s') ∧ text s' = text s ++ piece := by
  unfold Stream.put
  split
  case isTrue hempty =>
    rw [String.isEmpty_iff] at hempty
    exact ⟨s, rfl, by rw [hempty, String.append_empty]⟩
  case isFalse => exact h.write piece s

theorem Stream.Keeps.putAll {σ : Type} {stream : Stream σ} {text : σ → String}
    (h : stream.Keeps text) (pieces : List String) (s : σ) :
    ∃ s', stream.putAll pieces s = (none, s') ∧ text s' = text s ++ String.join pieces := by
  induction pieces generalizing s with
  | nil => exact ⟨s, rfl, String.append_empty.symm⟩
  | cons piece rest ih =>
    obtain ⟨s', hput, htext⟩ := h.put piece s
    obtain ⟨s'', hrest, htext'⟩ := ih s'
    refine ⟨s'', ?_, ?_⟩
    · rw [Stream.putAll, hput]
      exact hrest
    · rw [htext', htext, String.join_cons, String.append_assoc]

namespace Render

open Highlight (Highlighter)
open Github (written writtenDescent hookWith)

variable {σ α β : Type} {stream : Stream σ} {text : σ → String}

namespace Rendering

/-- A rendering that does not fail but gives a result, and writes markup with these elements open
before and after it. -/
def Writes (text : σ → String) (m : Rendering σ α) (result : α) (before after : List String) :
    Prop :=
  ∀ ids s, ∃ ids' s' html, m (ids, s) = (.ok result, ids', s') ∧ text s' = text s ++ html ∧
    Shifts html before after

theorem Writes.pure (result : α) (names : List String) :
    Writes text (Pure.pure result) result names names := by
  intro ids s
  exact ⟨ids, s, "", rfl, String.append_empty.symm, .empty names⟩

theorem Writes.bind {m : Rendering σ α} {k : α → Rendering σ β} {a : α} {b : β}
    {before between after : List String} (h : Writes text m a before between)
    (h' : Writes text (k a) b between after) : Writes text (m >>= k) b before after := by
  intro ids s
  obtain ⟨ids', s', html, hm, htext, hshifts⟩ := h ids s
  obtain ⟨ids'', s'', html', hk, htext', hshifts'⟩ := h' ids' s'
  refine ⟨ids'', s'', html ++ html', ?_, ?_, hshifts.append hshifts'⟩
  · rw [bind_apply, hm]
    exact hk
  · rw [htext', htext, String.append_assoc]

theorem Writes.inside {m : Rendering σ α} {a : α} {before after : List String}
    (h : Writes text m a before after) (outer : List String) :
    Writes text m a (before ++ outer) (after ++ outer) := by
  intro ids s
  obtain ⟨ids', s', html, hm, htext, hshifts⟩ := h ids s
  exact ⟨ids', s', html, hm, htext, hshifts.inside outer⟩

section

variable {highlighter : Highlighter} {theme : String} {doc : Document} {i : Nat}

/-- A visit writes what the hook or the default markup has for it. -/
theorem visited_apply_hookWith (hstream : stream.Keeps text) (entering : Bool) (ids : HeadingIds)
    (s : σ) :
    ∃ ids' s', visited stream (hookWith highlighter stream theme) doc i entering (ids, s) =
        (.ok (writtenDescent highlighter theme doc i entering), ids', s') ∧
      text s' = text s ++ String.join (written highlighter theme doc i entering ids) := by
  obtain ⟨s', hput, htext⟩ := hstream.putAll (written highlighter theme doc i entering ids) s
  rw [visited_apply, visit, hookWith]
  unfold written at hput htext ⊢
  unfold writtenDescent
  cases houtput : Github.output highlighter theme doc i entering with
  | none =>
    simp only [houtput] at hput htext ⊢
    refine ⟨(markup doc i entering ids).2, s', ?_, htext⟩
    simp only [Answer.declined, hput]
  | some taken =>
    simp only [houtput] at hput htext ⊢
    refine ⟨ids, s', ?_, htext⟩
    simp only [hput]

theorem writes_visited (hstream : stream.Keeps text) {entering : Bool} {before after : List String}
    (h : ∀ ids, Shifts (String.join (written highlighter theme doc i entering ids)) before after) :
    Writes text (visited stream (hookWith highlighter stream theme) doc i entering)
      (writtenDescent highlighter theme doc i entering) before after := by
  intro ids s
  obtain ⟨ids', s', hvisited, htext⟩ := visited_apply_hookWith hstream entering ids s
  exact ⟨ids', s', _, hvisited, htext, h ids⟩

end

/-- The children of a node leave one body open for each head among them. -/
theorem writes_forM {doc : Document} {f : Nat → Rendering σ Unit} {cs : List Nat}
    (h : ∀ c ∈ cs, Writes text (f c) () [] (namesAfter (doc.element c))) :
    Writes text (cs.forM f) () []
      (List.replicate (cs.countP fun c => doc.element c = .tableHead) "tbody") := by
  induction cs with
  | nil => exact .pure () []
  | cons c cs ih =>
    have hfirst := h c List.mem_cons_self
    have hrest := ih fun d hd => h d (List.mem_cons_of_mem c hd)
    have hinside := hrest.inside (namesAfter (doc.element c))
    have hnames : List.replicate (cs.countP fun c => doc.element c = .tableHead) "tbody" ++
        namesAfter (doc.element c) =
        List.replicate ((c :: cs).countP fun c => doc.element c = .tableHead) "tbody" := by
      unfold namesAfter
      by_cases hhead : doc.element c = .tableHead
      · rw [if_pos hhead, List.countP_cons_of_pos (by simpa using hhead), List.replicate_succ']
      · rw [if_neg hhead, List.countP_cons_of_neg (by simpa using hhead), List.append_nil]
    rw [List.nil_append, hnames] at hinside
    exact hfirst.bind hinside

/-- The heads among a node's children are as many as bodies are closed with the node. -/
theorem replicate_countP_head {doc : Document} (linked : doc.Linked) (h : doc.Orderly)
    {i : Nat} (hi : i < doc.size) :
    List.replicate ((doc.children i).countP fun c => doc.element c = .tableHead) "tbody" =
      namesAfterChildren (doc.element i) := by
  unfold namesAfterChildren
  by_cases htable : (doc.element i).isTable
  · rw [h.countP_head i hi htable, if_pos htable]
    rfl
  · have hnone : ((doc.children i).countP fun c => doc.element c = .tableHead) = 0 := by
      rw [List.countP_eq_zero]
      intro c hc hhead
      have hparent := linked.mem_children_iff.mp hc
      have hisTable := h.isTable_parent c (linked.parent_lt hparent).2 (of_decide_eq_true hhead)
      rw [hparent] at hisTable
      exact htable hisTable
    rw [hnone, if_neg htable]
    rfl

/-- Only an image's children are left out. -/
theorem namesAfterChildren_of_skip {highlighter : Highlighter} {theme : String} {doc : Document}
    {i : Nat} (hcontainer : (doc.element i).isContainer)
    (hskip : writtenDescent highlighter theme doc i true ≠ .children) :
    namesAfterChildren (doc.element i) = [] := by
  rw [Github.writtenDescent_eq hcontainer] at hskip
  refine if_neg fun htable => hskip ?_
  cases hi : doc.element i with
  | image url title =>
    rw [hi] at htable
    cases htable
  | _ => rfl

theorem writes_walkNode (hstream : stream.Keeps text) {highlighter : Highlighter}
    (hhighlighter : highlighter.WellFormed) (theme : String) {doc : Document}
    (linked : doc.Linked) (h : doc.Orderly) (i : Nat) (hi : i < doc.size) :
    Writes text (walkNode stream (hookWith highlighter stream theme) linked i) () []
      (namesAfter (doc.element i)) := by
  -- children have greater numbers than their parent
  induction hn : doc.size - i using Nat.strong_induction_on generalizing i with
  | _ n ih =>
    have hchildren : ∀ c ∈ doc.children i,
        Writes text (walkNode stream (hookWith highlighter stream theme) linked c) () []
          (namesAfter (doc.element c)) := by
      intro c hc
      obtain ⟨hlt, hsize⟩ := linked.parent_lt (linked.mem_children_iff.mp hc)
      exact ih (doc.size - c) (by omega) c hsize rfl
    rw [walkNode_eq]
    cases hcontainer : (doc.element i).isContainer with
    | false =>
      have hleaf (ids : HeadingIds) :
          Balanced (String.join (written highlighter theme doc i true ids)) :=
        Github.balanced_written hhighlighter ids hcontainer (h.isHtml_eq_false i hi)
      have hafter : namesAfter (doc.element i) = [] := by
        refine if_neg fun hhead => ?_
        rw [hhead] at hcontainer
        cases hcontainer
      rw [hafter]
      exact (writes_visited hstream hleaf).bind (.pure () [])
    | true =>
      have hencloses : Github.Encloses highlighter theme doc i :=
        Github.encloses_written hcontainer
      obtain ⟨opened, hentering, hleaving⟩ := hencloses
      have hlast : Writes text (do
          let _ ← visited stream (hookWith highlighter stream theme) doc i false) () _ _ :=
        (writes_visited hstream hleaving).bind (.pure () _)
      refine (writes_visited hstream hentering).bind ?_
      rw [if_pos rfl]
      -- the last visit closes what the first one opened and the bodies that children left open
      by_cases hd : writtenDescent highlighter theme doc i true = .children
      · have hbelow := (writes_forM hchildren).inside opened
        rw [replicate_countP_head linked h hi] at hbelow
        simp only [if_pos hd]
        exact hbelow.bind hlast
      · rw [namesAfterChildren_of_skip hcontainer hd] at hlast
        simp only [if_neg hd]
        exact hlast

theorem writes_walkDocument (hstream : stream.Keeps text) {highlighter : Highlighter}
    (hhighlighter : highlighter.WellFormed) (theme : String) {doc : Document}
    (linked : doc.Linked) (h : doc.Orderly) :
    Writes text (walkDocument stream (hookWith highlighter stream theme) linked) () [] [] := by
  have hwalk := writes_walkNode hstream hhighlighter theme linked h 0 linked.size_pos
  have hflush : Writes text (attempt stream.flush) () [] [] := by
    intro ids s
    obtain ⟨s', hflush, htext⟩ := hstream.flush s
    refine ⟨ids, s', "", ?_, ?_, .empty []⟩
    · rw [attempt_apply, hflush]
    · rw [htext, String.append_empty]
  rw [linked.element_root] at hwalk
  exact hwalk.bind hflush

/-- Whatever texts, addresses and attributes an orderly document contains, into a stream that never
fails it is written completely, and what is written is balanced. -/
theorem balanced_render_ofEvents {σ : Type} (stream : Stream σ) (text : σ → String)
    (hstream : stream.Keeps text) (highlighter : Highlighter)
    (hhighlighter : highlighter.WellFormed) (theme : String) (events : List Event)
    (h : (Document.ofEvents events).Orderly) (ids : HeadingIds) (s : σ) :
    ∃ ids' s' html,
      render stream (hookWith highlighter stream theme) (Document.ofEvents events) ids s =
        (none, ids', s') ∧
      text s' = text s ++ html ∧ Balanced html := by
  have linked := Document.linked_ofEvents events
  have hwalk := writes_walkDocument hstream hhighlighter theme linked h
  obtain ⟨ids', s', html, hrun, htext, hbalanced⟩ := hwalk ids s
  refine ⟨ids', s', html, ?_, htext, hbalanced⟩
  rw [render_eq_outcome stream _ linked (Document.preorder_ofEvents events), outcome, hrun]

/-- An alert with a task list, a link whose title tries to end its attribute, a table, a diagram
and code. -/
theorem balanced_render_alert :
    ∃ ids' s' html,
      render Stream.buffer (hookWith Highlight.highlighter Stream.buffer "da\"rk")
          (Document.ofEvents
            [.start .blockQuote, .start .paragraph, .text "[!NOTE] a < b :octocat:",
              .finish .paragraph, .start (.list none), .start .item, .taskMarker true, .text " & c",
              .start (.link "x" "\"><b>"), .text "d", .finish .link, .finish .item, .finish .list,
              .start (.table [.center]), .start .tableHead, .start .tableCell, .finish .tableCell,
              .finish .tableHead, .start .tableRow, .start .tableCell, .finish .tableCell,
              .finish .tableRow, .finish .table, .start (.fencedCode "mermaid"), .text "</pre>",
              .finish .codeBlock, .start (.fencedCode "rust"), .text "<", .finish .codeBlock,
              .finish .blockQuote]) {} "" = (none, ids', s') ∧
        id s' = id "" ++ html ∧ Balanced html := by
  have hbuffer : Stream.buffer.Keeps id :=
    ⟨fun piece s => ⟨s ++ piece, rfl, rfl⟩, fun s => ⟨s, rfl, rfl⟩⟩
  exact balanced_render_ofEvents Stream.buffer id hbuffer Highlight.highlighter
    Highlight.wellFormed_highlighter "da\"rk" _
    ⟨by decide +kernel, by decide +kernel, by decide +kernel⟩ {} ""

end Rendering

end Render

end MarkdownPreview
