import MarkdownPreview.Proofs.Document.Normal
import MarkdownPreview.Proofs.Document.Shape

/-!
Events after events. If nothing but the root is open after the first of two lists of events, then
the document of both has the trees of the first list and after them those of the second; only a text
that meets a text at the seam goes into the same node.
-/

namespace MarkdownPreview

namespace Tree

/-- Trees after other trees; texts that meet become one. -/
def joinTrees (us ts : List Tree) : List Tree := us.foldr joinText ts

theorem joinTrees_cons (u : Tree) (us ts : List Tree) :
    joinTrees (u :: us) ts = joinText u (joinTrees us ts) := rfl

theorem joinText_of_not_text {t : Tree} {ts : List Tree}
    (h : ∀ u ∈ ts.head?, ¬(t.element.isText = true ∧ u.element.isText = true)) :
    joinText t ts = t :: ts := by
  obtain ⟨e, us⟩ := t
  rcases ts with - | ⟨⟨e', vs⟩, ts⟩
  · cases e <;> rfl
  · have happart : ¬(e.isText = true ∧ e'.isText = true) := h (node e' vs) rfl
    cases e with
    | text a =>
      cases e' with
      | text b => exact absurd ⟨rfl, rfl⟩ happart
      | _ => rfl
    | _ => rfl

/-- Trees whose texts are apart stay as they are. -/
theorem joinTrees_nil {us : List Tree}
    (h : us.IsChain fun t u => ¬(t.element.isText = true ∧ u.element.isText = true)) :
    joinTrees us [] = us := by
  induction us with
  | nil => rfl
  | cons t us ih =>
    rw [List.isChain_cons] at h
    rw [joinTrees_cons, ih h.2, joinText_of_not_text h.1]

theorem addText_joinTrees (s : String) (us ts : List Tree) :
    addText s (joinTrees us ts) = joinTrees us (addText s ts) := by
  induction us with
  | nil => rfl
  | cons t us ih => rw [joinTrees_cons, addText_joinText, ih, joinTrees_cons]

theorem joinTrees_concat (us ts : List Tree) {t : Tree} (h : t.element.isText = false) :
    joinTrees us (ts ++ [t]) = joinTrees us ts ++ [t] := by
  have hne : ∀ s, t.element ≠ .text s := by
    intro s hs
    rw [hs] at h
    cases h
  induction us with
  | nil => rfl
  | cons u us ih =>
    rw [joinTrees_cons, ih, joinText_concat_of_not_text u _ hne, joinTrees_cons]

end Tree

namespace Element

theorem isText_eq_false_of_isChildless {e : Element} (h : e.isChildless = false) :
    e.isText = false := by
  cases e <;> first | rfl | cases h

end Element

namespace Spine

open Tree (leaf joinTrees)

/-- A spine with trees before those of the root. -/
def after (us : List Tree) : Spine → Spine
  | root ts => root (joinTrees us ts)
  | inside outer e ts => inside (outer.after us) e ts

section

variable {us : List Tree} {sp : Spine}

@[simp] theorem element_after : (sp.after us).element = sp.element := by
  cases sp <;> rfl

theorem add_after {t : Tree} (h : t.element.isText = false) :
    (sp.after us).add t = (sp.add t).after us := by
  cases sp with
  | root ts => exact congrArg root (Tree.joinTrees_concat us ts h).symm
  | inside outer e ts => rfl

theorem addText_after (s : String) : (sp.after us).addText s = (sp.addText s).after us := by
  cases sp with
  | root ts => exact congrArg root (Tree.addText_joinTrees s us ts)
  | inside outer e ts => rfl

theorem mapElement_after (f : Element → Element) :
    (sp.after us).mapElement f = (sp.mapElement f).after us := by
  cases sp <;> rfl

theorem close_after (h : sp.element.isText = false) : (sp.after us).close = sp.close.after us := by
  cases sp with
  | root ts => rfl
  | inside outer e ts => exact add_after h

theorem closeTight_after : (sp.after us).closeTight = sp.closeTight.after us := by
  rw [closeTight, closeTight, element_after]
  split
  case isTrue htight => exact close_after (by rw [htight]; rfl)
  case isFalse => rfl

theorem openTight_after : (sp.after us).openTight = sp.openTight.after us := by
  rw [openTight, openTight, element_after]
  split <;> rfl

theorem inlineLeaf_after {e : Element} (h : e.isText = false) :
    (sp.after us).inlineLeaf e = (sp.inlineLeaf e).after us := by
  rw [inlineLeaf, inlineLeaf, openTight_after]
  exact add_after h

theorem text_after (s : String) : (sp.after us).text s = (sp.text s).after us := by
  rw [text, text, element_after]
  split
  · exact mapElement_after _
  · exact mapElement_after _
  · rfl
  · rw [openTight_after, addText_after]

theorem blockHtml_after (s : String) : (sp.after us).blockHtml s = (sp.blockHtml s).after us := by
  rw [blockHtml, blockHtml, element_after]
  split
  · exact mapElement_after _
  · exact inlineLeaf_after rfl

theorem start_after (tag : Tag) : (sp.after us).start tag = (sp.start tag).after us := by
  rw [start, start, closeTight_after, openTight_after]
  split <;> rfl

theorem finish_after (h : sp.Ready) (name : TagName) :
    (sp.after us).finish name = (sp.finish name).after us := by
  rw [finish, finish, closeTight_after]
  split
  · exact close_after (Element.isText_eq_false_of_isChildless h.isChildless_eq_false)
  · exact close_after (Element.isText_eq_false_of_isChildless h.closeTight.isChildless_eq_false)

/-- An event does not look at what is before the trees of the root, but for a text right there. -/
theorem push_after (h : sp.Ready) (event : Event) :
    (sp.after us).push event = (sp.push event).after us := by
  cases event with
  | start tag => exact start_after tag
  | finish name => exact finish_after h name
  | text s => exact text_after s
  | html s => exact blockHtml_after s
  | rule => rw [push, push, closeTight_after, add_after rfl]
  | taskMarker checked => exact text_after _
  | _ => exact inlineLeaf_after rfl

theorem foldl_push_after (h : sp.Ready) (events : List Event) :
    events.foldl push (sp.after us) = (events.foldl push sp).after us := by
  induction events generalizing sp with
  | nil => rfl
  | cons event rest ih => rw [List.foldl_cons, List.foldl_cons, push_after h, ih (h.push event)]

theorem Ready.isChain_closed (h : sp.Ready) :
    sp.closed.IsChain fun t u => ¬(t.element.isText = true ∧ u.element.isText = true) := by
  have hapart := h.shaped.shape.apart
  rw [List.append_nil] at hapart
  exact (List.isChain_map _).mp hapart

theorem eq_root (h : sp.openNodes = [0]) : sp = root sp.closed := by
  cases sp with
  | root ts => rfl
  | inside outer e ts =>
    obtain ⟨rest, hrest⟩ := outer.openNodes_eq_cons
    rw [openNodes, hrest] at h
    exact absurd (List.cons.inj h).2 (List.cons_ne_nil _ _)

/-- With nothing but the root open, a spine is its trees with nothing after them. -/
theorem eq_after_root (h : sp.Ready) (hroot : sp.openNodes = [0]) :
    sp = (root []).after sp.closed := by
  rw [after, Tree.joinTrees_nil h.isChain_closed]
  exact eq_root hroot

theorem ofEvents_append {before : List Event} (h : (ofEvents before).openNodes = [0])
    (events : List Event) :
    ofEvents (before ++ events) = (ofEvents events).after (ofEvents before).closed :=
  calc
    _ = events.foldl push (ofEvents before) := List.foldl_append
    _ = events.foldl push ((root []).after (ofEvents before).closed) :=
      congrArg (events.foldl push ·) (eq_after_root (ready_ofEvents before) h)
    _ = _ := foldl_push_after ready_root events

theorem tree_close (sp : Spine) : sp.close.tree = sp.tree := by
  cases sp with
  | root ts => rfl
  | inside outer e ts => cases outer <;> simp [tree, treeWith, close, add, withClosed, closed]

/-- Elements that are still open are finished one after the other. -/
theorem exists_tree_eq (us : List Tree) (sp : Spine) (more : List Tree)
    (h : (sp.withClosed more).Ready) :
    ∃ ts, (sp.withClosed more).tree = .node .document ts ∧
      ((sp.withClosed more).after us).tree = .node .document (joinTrees us ts) := by
  induction sp generalizing more with
  | root ts => exact ⟨more, tree_root more, tree_root _⟩
  | inside outer e ts ih =>
    have htext := Element.isText_eq_false_of_isChildless h.isChildless_eq_false
    have hclosed : (outer.withClosed (outer.closed ++ [.node e more])).Ready := h.close
    obtain ⟨trees, htree, hafter⟩ := ih _ hclosed
    refine ⟨trees, ?_, ?_⟩
    · rw [← tree_close]
      exact htree
    · rw [← tree_close, close_after htext]
      exact hafter

end

end Spine

/-- The document of events after events is made of the trees of both. -/
theorem Document.exists_ofEvents_append_eq {before : List Event}
    (h : (before.foldl Builder.push .new).openNodes = [0]) (events : List Event) :
    ∃ us ts, ofEvents before = ofTree (.node .document us) ∧
      ofEvents events = ofTree (.node .document ts) ∧
      ofEvents (before ++ events) = ofTree (.node .document (Tree.joinTrees us ts)) := by
  rw [Spine.foldl_push_new] at h
  have hready := Spine.ready_ofEvents events
  rw [← (Spine.ofEvents events).withClosed_closed] at hready
  obtain ⟨ts, htree, hafter⟩ :=
    Spine.exists_tree_eq (Spine.ofEvents before).closed (Spine.ofEvents events) _ hready
  rw [Spine.withClosed_closed] at htree hafter
  refine ⟨(Spine.ofEvents before).closed, ts, ?_, ?_, ?_⟩
  · rw [ofEvents_eq_doc, Spine.doc_eq_ofTree, ← Spine.tree_root, ← Spine.eq_root h]
  · rw [ofEvents_eq_doc, Spine.doc_eq_ofTree, htree]
  · rw [ofEvents_eq_doc, Spine.doc_eq_ofTree, Spine.ofEvents_append h, hafter]

end MarkdownPreview
