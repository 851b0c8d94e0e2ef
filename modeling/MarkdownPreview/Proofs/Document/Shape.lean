import MarkdownPreview.Proofs.Document.Invariant

/-!
The shape of documents. What may stand in an element is decided by the element and by the child
before it, so the shape is a condition on each node and the elements of its children. Every event
keeps it on the spine, whatever is open, and a spine of this shape describes a document of it.
-/

namespace MarkdownPreview

open Builder (appendLiteral)

namespace Element

def isText : Element → Bool
  | text _ => true
  | _ => false

/-- Elements that nothing stands in. -/
def isChildless : Element → Bool
  | text _ | code _ | html _ | math .. | footnoteReference _ | softBreak | hardBreak | rule => true
  | _ => false

/-- Whether an element may be a child of another. -/
structure Takes (e child : Element) : Prop where
  isChildless_eq_false : e.isChildless = false
  isBlock_of_item : e = .item → child.isBlock = true
  eq_item_of_tight : child = .paragraph true → e = .item

/-- Whether elements may be the children of an element, in this order. -/
structure Shape (e : Element) (children : List Element) : Prop where
  takes : ∀ child ∈ children, e.Takes child
  apart : children.IsChain fun a b => ¬(a.isText = true ∧ b.isText = true)
  ne_nil_of_tight : e = .paragraph true → children ≠ []

section

variable {e child : Element} {children : List Element}

theorem isText_eq_false_of_isBlock (h : e.isBlock = true) : e.isText = false := by
  cases e <;> first | rfl | cases h

theorem Shape.eq_nil (h : e.Shape children) (hchildless : e.isChildless = true) :
    children = [] := by
  rw [List.eq_nil_iff_forall_not_mem]
  intro child hchild
  have hopen := (h.takes child hchild).isChildless_eq_false
  rw [hchildless] at hopen
  cases hopen

theorem Shape.nil (h : e ≠ .paragraph true) : e.Shape [] :=
  ⟨List.forall_mem_nil _, .nil, fun he => absurd he h⟩

theorem Shape.singleton (h : e.Takes child) : e.Shape [child] :=
  ⟨List.forall_mem_singleton.mpr h, .singleton child, fun _ => List.cons_ne_nil child []⟩

theorem Shape.concat (h : e.Shape children) (htakes : e.Takes child)
    (hapart : child.isText = true → ∀ last ∈ children.getLast?, last.isText = false) :
    e.Shape (children ++ [child]) := by
  refine ⟨?_, ?_, fun _ => List.concat_ne_nil child children⟩
  · intro c hc
    rcases List.mem_append.mp hc with hc | hc
    · exact h.takes c hc
    · rw [List.mem_singleton.mp hc]
      exact htakes
  · refine List.isChain_append.mpr ⟨h.apart, .singleton child, ?_⟩
    rintro last hlast c hc ⟨hlasttext, htext⟩
    obtain rfl : child = c := Option.some_inj.mp hc
    rw [hapart htext last hlast] at hlasttext
    cases hlasttext

/-! ### Literals do not matter -/

@[simp] theorem isText_appendLiteral (s : String) (e : Element) :
    (appendLiteral s e).isText = e.isText := by
  cases e <;> rfl

@[simp] theorem isBlock_appendLiteral (s : String) (e : Element) :
    (appendLiteral s e).isBlock = e.isBlock := by
  cases e <;> rfl

@[simp] theorem isChildless_appendLiteral (s : String) (e : Element) :
    (appendLiteral s e).isChildless = e.isChildless := by
  cases e <;> rfl

@[simp] theorem appendLiteral_eq_item_iff (s : String) (e : Element) :
    appendLiteral s e = .item ↔ e = .item := by
  cases e <;> simp [appendLiteral]

@[simp] theorem appendLiteral_eq_paragraph_iff (s : String) (e : Element) (tight : Bool) :
    appendLiteral s e = .paragraph tight ↔ e = .paragraph tight := by
  cases e <;> simp [appendLiteral]

theorem takes_appendLiteral_iff (s : String) : e.Takes (appendLiteral s child) ↔ e.Takes child := by
  constructor <;> rintro ⟨hchildless, hblock, htight⟩ <;> constructor <;> simp_all

theorem Shape.withLiteral (h : e.Shape children) (s : String) :
    (appendLiteral s e).Shape children := by
  refine ⟨fun c hc => ?_, h.apart, ?_⟩
  · obtain ⟨hchildless, hblock, htight⟩ := h.takes c hc
    constructor <;> simpa
  · simpa using h.ne_nil_of_tight

theorem Shape.withLiteral_last (h : e.Shape (children ++ [child])) (s : String) :
    e.Shape (children ++ [appendLiteral s child]) := by
  obtain ⟨hfront, -, hlast⟩ := List.isChain_append.mp h.apart
  refine ⟨?_, ?_, fun _ => List.concat_ne_nil _ children⟩
  · intro c hc
    rcases List.mem_append.mp hc with hc | hc
    · exact h.takes c (List.mem_append_left _ hc)
    · rw [List.mem_singleton.mp hc, takes_appendLiteral_iff]
      exact h.takes child (List.mem_append_right _ List.mem_cons_self)
  · refine List.isChain_append.mpr ⟨hfront, .singleton _, ?_⟩
    rintro last hmem c hc
    obtain rfl : _ = c := Option.some_inj.mp hc
    rw [isText_appendLiteral]
    exact hlast last hmem child rfl

end

end Element

namespace Tree

/-- A tree all of whose nodes have the shape. -/
inductive Shaped : Tree → Prop
  | node {e : Element} {ts : List Tree} :
      e.Shape (ts.map element) → (∀ t ∈ ts, t.Shaped) → Shaped (node e ts)

theorem shaped_node {e : Element} {ts : List Tree} :
    (node e ts).Shaped ↔ e.Shape (ts.map element) ∧ ∀ t ∈ ts, t.Shaped :=
  ⟨fun ⟨hshape, hts⟩ => ⟨hshape, hts⟩, fun ⟨hshape, hts⟩ => .node hshape hts⟩

theorem shaped_leaf {e : Element} (h : e ≠ .paragraph true) : (leaf e).Shaped :=
  .node (.nil h) (List.forall_mem_nil _)

/-- Text goes into a text at the end, or becomes a node of its own. -/
theorem addText_cases (s : String) (ts : List Tree) :
    (∃ init a us, ts = init ++ [node (.text a) us] ∧
      addText s ts = init ++ [node (.text (a ++ s)) us]) ∨
    (∀ t ∈ ts.getLast?, t.element.isText = false) ∧ addText s ts = ts ++ [leaf (.text s)] := by
  rcases List.eq_nil_or_concat ts with rfl | ⟨init, ⟨e, us⟩, rfl⟩
  · exact .inr ⟨by simp, rfl⟩
  · rw [List.concat_eq_append]
    cases e with
    | text a => exact .inl ⟨init, a, us, rfl, by simp [addText]⟩
    | _ => exact .inr ⟨by simp [element, Element.isText], by simp [addText]⟩

end Tree

namespace Spine

open Element (Shape Takes)
open Tree (leaf)

/-- A spine all of whose nodes have the shape, once the innermost open element has some further
children. -/
def Shaped : Spine → List Element → Prop
  | root ts, more => Shape .document (ts.map Tree.element ++ more) ∧ ∀ t ∈ ts, t.Shaped
  | inside outer e ts, more =>
    outer.Shaped [e] ∧ Shape e (ts.map Tree.element ++ more) ∧ ∀ t ∈ ts, t.Shaped

/-- A spine that has the shape and may grow. -/
structure Ready (sp : Spine) : Prop where
  shaped : sp.Shaped []
  isChildless_eq_false : sp.element.isChildless = false

section

variable {sp : Spine} {e : Element} {more more' : List Element}

theorem Shaped.shape (h : sp.Shaped more) :
    sp.element.Shape (sp.closed.map Tree.element ++ more) := by
  cases sp with
  | root ts => exact h.1
  | inside outer e ts => exact h.2.1

theorem Shaped.of_shape (h : sp.Shaped more)
    (hshape : sp.element.Shape (sp.closed.map Tree.element ++ more')) : sp.Shaped more' := by
  cases sp with
  | root ts => exact ⟨hshape, h.2⟩
  | inside outer e ts => exact ⟨h.1, hshape, h.2.2⟩

theorem Shaped.takes (h : sp.Shaped [e]) : sp.element.Takes e :=
  h.shape.takes e (List.mem_append_right _ List.mem_cons_self)

theorem Shaped.withLiteral (h : sp.Shaped [e]) (s : String) : sp.Shaped [appendLiteral s e] :=
  h.of_shape (h.shape.withLiteral_last s)

theorem shaped_add (t : Tree) :
    (sp.add t).Shaped more ↔ sp.Shaped (t.element :: more) ∧ t.Shaped := by
  cases sp <;> simp [add, withClosed, closed, Shaped, or_imp, forall_and, and_assoc]

theorem Ready.shaped_concat (h : sp.Ready) (hblock : sp.element = .item → e.isBlock = true)
    (htight : e = .paragraph true → sp.element = .item)
    (htext : e.isText = true → ∀ t ∈ sp.closed.getLast?, t.element.isText = false) :
    sp.Shaped [e] := by
  have hshape := h.shaped.shape
  rw [List.append_nil] at hshape
  refine h.shaped.of_shape (hshape.concat ⟨h.isChildless_eq_false, hblock, htight⟩ ?_)
  intro hetext last hlast
  rw [List.getLast?_map, Option.mem_def, Option.map_eq_some_iff] at hlast
  obtain ⟨t, ht, rfl⟩ := hlast
  exact htext hetext t ht

theorem ready_inside (h : sp.Shaped [e]) (hne : e ≠ .paragraph true)
    (hopen : e.isChildless = false) : (inside sp e []).Ready :=
  ⟨⟨h, .nil hne, List.forall_mem_nil _⟩, hopen⟩

theorem ready_add_leaf (h : sp.Shaped [e]) (hne : e ≠ .paragraph true) :
    (sp.add (leaf e)).Ready := by
  refine ⟨(shaped_add _).mpr ⟨h, Tree.shaped_leaf hne⟩, ?_⟩
  rw [add, element_withClosed]
  exact h.takes.isChildless_eq_false

theorem Ready.close (h : sp.Ready) : sp.close.Ready := by
  cases sp with
  | root ts => exact h
  | inside outer e ts =>
    obtain ⟨houter, hshape, hclosed⟩ := h.shaped
    rw [List.append_nil] at hshape
    refine ⟨(shaped_add _).mpr ⟨houter, .node hshape hclosed⟩, ?_⟩
    rw [Spine.close, add, element_withClosed]
    exact houter.takes.isChildless_eq_false

theorem Ready.closeTight (h : sp.Ready) : sp.closeTight.Ready := by
  rw [Spine.closeTight]
  split
  · exact h.close
  · exact h

/-- A block may come after the run of inline content is closed. -/
theorem Ready.shaped_closeTight (h : sp.Ready) (hblock : e.isBlock = true)
    (hne : e ≠ .paragraph true) : sp.closeTight.Shaped [e] := by
  refine h.closeTight.shaped_concat (fun _ => hblock) (fun he => absurd he hne) fun htext => ?_
  rw [Element.isText_eq_false_of_isBlock hblock] at htext
  cases htext

/-- Inline content may come after a run of inline content is opened for it. -/
theorem Ready.shaped_openTight (h : sp.Ready) (hne : e ≠ .paragraph true)
    (htext : e.isText = true → sp.element ≠ .item →
      ∀ t ∈ sp.closed.getLast?, t.element.isText = false) :
    sp.openTight.Shaped [e] := by
  rw [openTight]
  split
  case isTrue hitem =>
    have htight : sp.Shaped [.paragraph true] :=
      h.shaped_concat (fun _ => rfl) (fun _ => hitem) (fun hfalse => by cases hfalse)
    refine ⟨htight, .singleton ⟨rfl, ?_, ?_⟩, List.forall_mem_nil _⟩
    · intro hfalse
      cases hfalse
    · exact fun he => absurd he hne
  case isFalse hitem =>
    exact h.shaped_concat (fun he => absurd he hitem) (fun he => absurd he hne)
      fun het => htext het hitem

theorem Ready.inlineLeaf (h : sp.Ready) (hne : e ≠ .paragraph true) (htext : e.isText = false) :
    (sp.inlineLeaf e).Ready := by
  refine ready_add_leaf (h.shaped_openTight hne fun het => ?_) hne
  rw [htext] at het
  cases het

theorem Ready.mapLiteral (h : sp.Ready) (s : String) : (sp.mapElement (appendLiteral s)).Ready := by
  cases sp with
  | root ts => exact h
  | inside outer e ts =>
    obtain ⟨houter, hshape, hclosed⟩ := h.shaped
    refine ⟨⟨houter.withLiteral s, hshape.withLiteral s, hclosed⟩, ?_⟩
    rw [← h.isChildless_eq_false]
    exact Element.isChildless_appendLiteral s e

theorem withClosed_concat (sp : Spine) (init : List Tree) (t : Tree) :
    sp.withClosed (init ++ [t]) = (sp.withClosed init).add t := by
  rw [add, closed_withClosed, withClosed_withClosed]

theorem openTight_addText_of_item (h : sp.element = .item) (s : String) :
    sp.openTight.addText s = sp.openTight.add (leaf (.text s)) := by
  rw [openTight, if_pos h]
  rfl

/-- The last child has the shape, and may stand where it does. -/
theorem Ready.shaped_last (h : sp.Ready) {init : List Tree} {t : Tree}
    (hclosed : sp.closed = init ++ [t]) :
    (sp.withClosed init).Shaped [t.element] ∧ t.Shaped := by
  rw [← shaped_add, add_eq sp hclosed]
  exact h.shaped

theorem Ready.inlineText (h : sp.Ready) (s : String) : (sp.openTight.addText s).Ready := by
  by_cases hitem : sp.element = .item
  · -- the text is the first child of the paragraph that is opened for it
    rw [openTight_addText_of_item hitem]
    exact ready_add_leaf (h.shaped_openTight (by simp) fun _ hne => absurd hitem hne) (by simp)
  · rw [openTight, if_neg hitem, addText]
    rcases Tree.addText_cases s sp.closed with ⟨init, a, us, hclosed, hadd⟩ | ⟨hlast, hadd⟩
    · obtain ⟨hinit, ⟨hus, hshapedus⟩⟩ := h.shaped_last hclosed
      rw [hadd, withClosed_concat]
      refine ⟨(shaped_add _).mpr ⟨hinit.withLiteral s, .node (hus.withLiteral s) hshapedus⟩, ?_⟩
      rw [add, element_withClosed, element_withClosed]
      exact h.isChildless_eq_false
    · rw [hadd]
      have hshaped : sp.Shaped [.text s] :=
        h.shaped_concat (fun he => absurd he hitem) (by simp) fun _ => hlast
      exact ready_add_leaf hshaped (by simp)

theorem Ready.text (h : sp.Ready) (s : String) : (sp.text s).Ready := by
  rw [Spine.text]
  split
  · exact h.mapLiteral s
  · exact h.mapLiteral s
  · exact h
  · exact h.inlineText s

theorem Ready.blockHtml (h : sp.Ready) (s : String) : (sp.blockHtml s).Ready := by
  rw [Spine.blockHtml]
  split
  · exact h.mapLiteral s
  · exact h.inlineLeaf (by simp) rfl

theorem Ready.start (h : sp.Ready) (tag : Tag) : (sp.start tag).Ready := by
  rw [Spine.start]
  refine ready_inside ?_ tag.element_ne_tight ?_
  · split
    case isTrue hblock => exact h.shaped_closeTight hblock tag.element_ne_tight
    case isFalse =>
      refine h.shaped_openTight tag.element_ne_tight fun htext => ?_
      cases tag <;> cases htext
  · cases tag <;> rfl

theorem Ready.finish (h : sp.Ready) (name : TagName) : (sp.finish name).Ready := by
  rw [Spine.finish]
  split
  · exact h.close
  · exact h.closeTight.close

theorem Ready.push (h : sp.Ready) (event : Event) : (sp.push event).Ready := by
  cases event with
  | start tag => exact h.start tag
  | finish name => exact h.finish name
  | text s => exact h.text s
  | html s => exact h.blockHtml s
  | rule => exact ready_add_leaf (h.shaped_closeTight rfl (by simp)) (by simp)
  | taskMarker checked => exact h.text _
  | _ => exact h.inlineLeaf (by simp) rfl

end

/-- The shape is kept by a whole run of events. -/
theorem ready_foldl_push {sp : Spine} (h : sp.Ready) (events : List Event) :
    (events.foldl push sp).Ready := by
  induction events generalizing sp with
  | nil => exact h
  | cons event rest ih => exact ih (h.push event)

theorem ready_root : (root []).Ready :=
  ⟨⟨.nil (by simp), List.forall_mem_nil _⟩, rfl⟩

theorem ready_ofEvents (events : List Event) : (ofEvents events).Ready :=
  ready_foldl_push ready_root events

theorem shaped_treeWith (sp : Spine) (more : List Tree) :
    (sp.treeWith more).Shaped ↔ sp.Shaped (more.map Tree.element) ∧ ∀ t ∈ more, t.Shaped := by
  induction sp generalizing more with
  | root ts =>
    rw [treeWith, Tree.shaped_node, Shaped, List.map_append, List.forall_mem_append, and_assoc]
  | inside outer e ts ih =>
    rw [treeWith, ih, List.forall_mem_singleton, Tree.shaped_node, Shaped, List.map_append,
      List.forall_mem_append, and_assoc, and_assoc]
    rfl

end Spine

namespace Document

theorem map_element_positions {doc : Document} {parent i : Nat} {ts : List Tree}
    (h : doc.Holds i (Tree.nodesAll parent i ts)) :
    (Tree.positions i ts).map doc.element = ts.map Tree.element := by
  induction ts generalizing i with
  | nil => rfl
  | cons t ts ih =>
    obtain ⟨e, us⟩ := t
    rw [Tree.nodesAll] at h
    have hright := h.right
    rw [Tree.length_nodes] at hright
    have hfirst := h.left
    rw [Tree.nodes_node] at hfirst
    have helement : doc.element i = e := by rw [element, hfirst.head]
    rw [Tree.positions, List.map_cons, List.map_cons, ih hright, helement]
    rfl

mutual
/-- The nodes of a tree have its shape wherever the tree begins. -/
theorem shape_tree {doc : Document} {parent : Option Nat} {i : Nat} (t : Tree) (ht : t.Shaped)
    (h : doc.Holds i (t.nodes parent i)) (k : Nat) (hk : k < t.size) :
    (doc.element (i + k)).Shape ((doc.children (i + k)).map doc.element) := by
  cases t with
  | node e ts =>
    rw [Tree.nodes_node] at h
    rw [Tree.shaped_node] at ht
    cases k with
    | zero =>
      have helement : doc.element i = e := by rw [element, h.head]
      have hchildren : doc.children i = Tree.positions (i + 1) ts := by rw [children, h.head]
      rw [Nat.add_zero, helement, hchildren, map_element_positions h.tail]
      exact ht.1
    | succ k =>
      rw [Tree.size, Nat.add_lt_add_iff_right] at hk
      have hbelow := shape_trees ts ht.2 h.tail k hk
      rwa [Nat.add_assoc, Nat.add_comm 1 k] at hbelow

theorem shape_trees {doc : Document} {parent i : Nat} (ts : List Tree) (hts : ∀ t ∈ ts, t.Shaped)
    (h : doc.Holds i (Tree.nodesAll parent i ts)) (k : Nat) (hk : k < Tree.sizeAll ts) :
    (doc.element (i + k)).Shape ((doc.children (i + k)).map doc.element) := by
  cases ts with
  | nil => exact absurd hk (Nat.not_lt_zero k)
  | cons t ts =>
    rw [Tree.nodesAll] at h
    rw [Tree.sizeAll_cons] at hk
    by_cases hfirst : k < t.size
    · exact shape_tree t (hts t List.mem_cons_self) h.left k hfirst
    · have hright := h.right
      rw [Tree.length_nodes] at hright
      have hrest := shape_trees ts (fun u hu => hts u (List.mem_cons_of_mem t hu)) hright
        (k - t.size) (by omega)
      rwa [Nat.add_assoc, Nat.add_sub_cancel' (Nat.le_of_not_lt hfirst)] at hrest
end

theorem shape_ofEvents (events : List Event) (i : Nat) (hi : i < (ofEvents events).size) :
    ((ofEvents events).element i).Shape
      (((ofEvents events).children i).map (ofEvents events).element) := by
  have hready := (Spine.ready_ofEvents events).shaped
  have hshaped := ((Spine.ofEvents events).shaped_treeWith []).mpr
    ⟨hready, List.forall_mem_nil _⟩
  rw [ofEvents_eq_doc, Spine.doc_eq_ofTree] at hi ⊢
  rw [size_ofTree] at hi
  have hnode := shape_tree _ hshaped (holds_nodes ((Spine.ofEvents events).tree.nodes none 0)) i hi
  rwa [Nat.zero_add] at hnode

/-- What the finished documents have in common: texts are merged, the inline content of items
stands in tight paragraphs, and leaves are leaves. -/
structure WellShaped (doc : Document) : Prop where
  texts_apart : ∀ p < doc.size, (doc.children p).IsChain fun i j =>
    ¬((doc.element i).isText = true ∧ (doc.element j).isText = true)
  isBlock_of_item : ∀ p < doc.size, doc.element p = .item → ∀ i ∈ doc.children p,
    (doc.element i).isBlock = true
  exists_item_of_tight : ∀ i < doc.size, doc.element i = .paragraph true →
    ∃ p, doc.parent? i = some p ∧ doc.element p = .item
  children_ne_nil_of_tight : ∀ i < doc.size, doc.element i = .paragraph true →
    doc.children i ≠ []
  children_eq_nil : ∀ i < doc.size, (doc.element i).isChildless = true → doc.children i = []

theorem Linked.takes {doc : Document} (hlinked : doc.Linked)
    (hshape : ∀ i < doc.size, (doc.element i).Shape ((doc.children i).map doc.element)) {i p : Nat}
    (h : i ∈ doc.children p) : (doc.element p).Takes (doc.element i) := by
  obtain ⟨hlt, hi⟩ := hlinked.parent_lt (hlinked.mem_children_iff.mp h)
  exact (hshape p (hlt.trans hi)).takes _ (List.mem_map_of_mem h)

/-- Every document is of this shape, whatever its events are. -/
theorem wellShaped_ofEvents (events : List Event) : (ofEvents events).WellShaped := by
  have hlinked := linked_ofEvents events
  have hshape := shape_ofEvents events
  refine ⟨?_, ?_, ?_, ?_, ?_⟩
  · intro p hp
    exact (List.isChain_map _).mp (hshape p hp).apart
  · intro p _ hitem i hi
    exact (hlinked.takes hshape hi).isBlock_of_item hitem
  · intro i hi htight
    have hpos : 0 < i := by
      rw [Nat.pos_iff_ne_zero]
      rintro rfl
      rw [hlinked.element_root] at htight
      cases htight
    obtain ⟨p, -, hp⟩ := hlinked.exists_parent i hpos hi
    have htakes := hlinked.takes hshape (hlinked.mem_children_iff.mpr hp)
    exact ⟨p, hp, htakes.eq_item_of_tight htight⟩
  · intro i hi htight hnil
    exact (hshape i hi).ne_nil_of_tight htight (List.map_eq_nil_iff.mpr hnil)
  · intro i hi hchildless
    exact List.map_eq_nil_iff.mp ((hshape i hi).eq_nil hchildless)

end Document

end MarkdownPreview
