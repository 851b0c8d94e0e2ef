import MarkdownPreview.Proofs.Document.Preorder
import MarkdownPreview.Proofs.Event.Forest

/-!
The normal form of a forest of events: the tree that a document of well nested events is the arena
of. Text next to text is one node, the inline content directly in a list item stands in tight
paragraphs, and verbatim elements keep their text as a literal.
-/

namespace MarkdownPreview

/-- Elements that take text into their literal, or drop it. -/
def Element.isVerbatim : Element → Bool
  | codeBlock .. | htmlBlock _ | metadata => true
  | _ => false

namespace Tree

/-- A tree before others; two texts become one. -/
def joinText : Tree → List Tree → List Tree
  | node (.text a) us, node (.text b) _ :: ts => node (.text (a ++ b)) us :: ts
  | t, ts => t :: ts

/-- Each run of adjacent texts as one text. -/
def mergeText (ts : List Tree) : List Tree := ts.foldr joinText []

/-- A run of inline content as a tight paragraph. -/
def tightParagraph : List Tree → List Tree
  | [] => []
  | run => [node (.paragraph true) (mergeText run)]

/-- The children of a list item after a run of inline content: blocks stay, and each longest run of
inline content becomes a tight paragraph. -/
def wrapInline : List Tree → List Tree → List Tree
  | run, [] => tightParagraph run
  | run, t :: ts =>
    if t.element.isBlock then tightParagraph run ++ t :: wrapInline [] ts
    else wrapInline (run ++ [t]) ts

end Tree

namespace EventTree

open Tree (mergeText wrapInline)

/-- The element of a leaf. -/
def leafElement : Event → Element
  | .text s => .text s
  | .taskMarker checked => .text (Builder.taskText checked)
  | .code s => .code s
  | .html s | .inlineHtml s => .html s
  | .math display s => .math display s
  | .footnoteReference label => .footnoteReference label
  | .softBreak => .softBreak
  | .hardBreak => .hardBreak
  | .rule => .rule
  | .start _ | .finish _ => .group

/-- What a leaf adds to the literal of a verbatim element. -/
def payload : EventTree → String
  | leaf (.text s) | leaf (.html s) => s
  | _ => ""

def literal (content : List EventTree) : String := String.join (content.map payload)

mutual
def normal : EventTree → Tree
  | leaf event => .leaf (leafElement event)
  | element tag content =>
    match tag.element with
    | .codeBlock info _ => .leaf (.codeBlock info (literal content))
    | .htmlBlock _ => .leaf (.htmlBlock (literal content))
    | .metadata => .leaf .metadata
    | .item => .node .item (wrapInline [] (normalAll content))
    | e => .node e (mergeText (normalAll content))

def normalAll : List EventTree → List Tree
  | [] => []
  | t :: ts => t.normal :: normalAll ts
end

theorem normalAll_cons (t : EventTree) (ts : List EventTree) :
    normalAll (t :: ts) = t.normal :: normalAll ts := by
  rw [normalAll]

/-- The tree of a whole document. -/
def document (forest : List EventTree) : Tree := .node .document (mergeText (normalAll forest))

end EventTree

namespace Tree

theorem addText_nil (s : String) : addText s [] = [leaf (.text s)] := rfl

theorem addText_singleton (s : String) (t : Tree) :
    addText s [t] = joinText t [leaf (.text s)] := by
  obtain ⟨e, ts⟩ := t
  cases e <;> rfl

theorem addText_cons_cons (s : String) (t u : Tree) (ts : List Tree) :
    addText s (t :: u :: ts) = t :: addText s (u :: ts) := by
  rw [addText, addText, List.getLast?_cons_cons]
  split <;> simp

theorem addText_joinText (s : String) (t : Tree) (ts : List Tree) :
    addText s (joinText t ts) = joinText t (addText s ts) := by
  obtain ⟨e, us⟩ := t
  rcases ts with - | ⟨⟨e', vs⟩, - | ⟨u, ts⟩⟩
  · have hnil : joinText (node e us) [] = [node e us] := by
      cases e <;> rfl
    rw [hnil, addText_singleton, addText_nil]
  · cases e with
    | text a =>
      cases e' with
      | text b => simp [joinText, addText, String.append_assoc]
      | _ => simp [joinText, addText]
    | _ => simp only [joinText, addText_cons_cons]
  · cases e with
    | text a =>
      cases e' with
      | text b => simp only [joinText, addText_cons_cons]
      | _ => simp only [joinText, addText_cons_cons]
    | _ => simp only [joinText, addText_cons_cons]

theorem mergeText_cons (t : Tree) (ts : List Tree) :
    mergeText (t :: ts) = joinText t (mergeText ts) :=
  rfl

/-- Merging goes on at the end of the trees as it does at their beginning. -/
theorem mergeText_concat_text (ts : List Tree) (s : String) :
    mergeText (ts ++ [leaf (.text s)]) = addText s (mergeText ts) := by
  induction ts with
  | nil => rfl
  | cons t ts ih =>
    rw [List.cons_append, mergeText_cons, ih, mergeText_cons, addText_joinText]

theorem joinText_concat_of_not_text (u : Tree) (ts : List Tree) {t : Tree}
    (h : ∀ s, t.element ≠ .text s) : joinText u (ts ++ [t]) = joinText u ts ++ [t] := by
  obtain ⟨e, us⟩ := u
  cases e with
  | text a =>
    rcases ts with - | ⟨⟨e', vs⟩, ts⟩
    · obtain ⟨e', vs⟩ := t
      cases e' with
      | text b => exact absurd rfl (h b)
      | _ => rfl
    · cases e' <;> rfl
  | _ => rfl

theorem mergeText_concat_of_not_text (ts : List Tree) {t : Tree} (h : ∀ s, t.element ≠ .text s) :
    mergeText (ts ++ [t]) = mergeText ts ++ [t] := by
  induction ts with
  | nil =>
    obtain ⟨e, us⟩ := t
    cases e with
    | text s => exact absurd rfl (h s)
    | _ => rfl
  | cons u ts ih =>
    rw [List.cons_append, mergeText_cons, ih, mergeText_cons, joinText_concat_of_not_text _ _ h]

/-- A text has nothing below it. -/
def TextIsLeaf (t : Tree) : Prop := ∀ s, t.element = .text s → t = leaf (.text s)

theorem mergeText_concat (ts : List Tree) {t : Tree} (h : t.TextIsLeaf) :
    mergeText (ts ++ [t]) =
      match t.element with
      | .text s => addText s (mergeText ts)
      | _ => mergeText ts ++ [t] := by
  split
  · next s hs => rw [h s hs, mergeText_concat_text]
  · next hnot => exact mergeText_concat_of_not_text ts hnot

end Tree

namespace Spine

open Tree (leaf mergeText tightParagraph wrapInline)

/-- Adds a tree where its events would add it. -/
def receive (sp : Spine) (t : Tree) : Spine :=
  if t.element.isBlock then sp.closeTight.add t
  else
    match t.element with
    | .text s => sp.openTight.addText s
    | _ => sp.openTight.add t

/-- Elements that take their content as it comes. -/
structure Plain (e : Element) : Prop where
  ne_item : e ≠ .item
  ne_tight : e ≠ .paragraph true

theorem openTight_of_plain {sp : Spine} (h : Plain sp.element) : sp.openTight = sp :=
  if_neg h.ne_item

theorem closeTight_of_plain {sp : Spine} (h : Plain sp.element) : sp.closeTight = sp :=
  if_neg h.ne_tight

/-- A plain element takes a tree as one more child. -/
theorem receive_plain {sp : Spine} (h : Plain sp.element) (ts : List Tree) {t : Tree}
    (ht : t.TextIsLeaf) :
    (sp.withClosed (mergeText ts)).receive t = sp.withClosed (mergeText (ts ++ [t])) := by
  have hplain : Plain (sp.withClosed (mergeText ts)).element := by
    rw [element_withClosed]
    exact h
  rw [Tree.mergeText_concat ts ht, receive, openTight_of_plain hplain, closeTight_of_plain hplain]
  obtain ⟨e, us⟩ := t
  cases e <;> simp [Tree.element, Element.isBlock, add, addText]

/-- A list item with some finished children and a run of inline content after them. -/
def item (outer : Spine) (done : List Tree) : List Tree → Spine
  | [] => inside outer .item done
  | run => inside (inside outer .item done) (.paragraph true) (mergeText run)

theorem closeTight_item (outer : Spine) (done run : List Tree) :
    (item outer done run).closeTight = inside outer .item (done ++ tightParagraph run) := by
  cases run with
  | nil => simp [item, closeTight, element, tightParagraph]
  | cons t ts => rfl

theorem receive_item_block (outer : Spine) (done run : List Tree) {t : Tree}
    (ht : t.element.isBlock = true) :
    (item outer done run).receive t = item outer (done ++ tightParagraph run ++ [t]) [] := by
  rw [receive, if_pos ht, closeTight_item]
  rfl

theorem openTight_item (outer : Spine) (done run : List Tree) :
    (item outer done run).openTight =
      inside (inside outer .item done) (.paragraph true) (mergeText run) := by
  cases run with
  | nil => rfl
  | cons t ts => rfl

theorem receive_item_inline (outer : Spine) (done run : List Tree) {t : Tree}
    (ht : t.TextIsLeaf) (hblock : t.element.isBlock = false) :
    (item outer done run).receive t = item outer done (run ++ [t]) := by
  have hitem : item outer done (run ++ [t]) =
      inside (inside outer .item done) (.paragraph true) (mergeText (run ++ [t])) := by
    cases run <;> rfl
  rw [hitem, Tree.mergeText_concat run ht, receive, hblock, openTight_item]
  obtain ⟨e, us⟩ := t
  cases e <;> simp [Tree.element, add, addText, withClosed, closed]

end Spine

end MarkdownPreview
