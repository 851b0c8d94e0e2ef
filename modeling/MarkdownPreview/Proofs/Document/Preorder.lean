import Mathlib.Data.List.Chain
import MarkdownPreview.Proofs.Document.Links

/-!
The order of the nodes of a document. The arena of a tree lists its nodes in preorder, so the walk
over a document meets the positions one after the other. The tree of a spine has the arena of the
spine, whatever is still open in it.
-/

namespace MarkdownPreview

namespace Document

/-- The walk over some nodes in turn and all below them, each node before its children: from the
nodes to the positions visited. -/
inductive Preorder (doc : Document) : List Nat → List Nat → Prop
  | nil : Preorder doc [] []
  | cons {i : Nat} {rest below after : List Nat} :
      Preorder doc (doc.children i) below → Preorder doc rest after →
        Preorder doc (i :: rest) (i :: (below ++ after))

/-- The arena has these nodes from position `i` on. -/
def Holds (doc : Document) (i : Nat) (ns : List Node) : Prop :=
  ∀ k, (h : k < ns.length) → doc.node (i + k) = ns[k]

theorem Holds.head {doc : Document} {i : Nat} {n : Node} {ns : List Node}
    (h : doc.Holds i (n :: ns)) : doc.node i = n :=
  h 0 (Nat.succ_pos _)

theorem Holds.tail {doc : Document} {i : Nat} {n : Node} {ns : List Node}
    (h : doc.Holds i (n :: ns)) : doc.Holds (i + 1) ns := by
  intro k hk
  have hnext := h (k + 1) (Nat.succ_lt_succ hk)
  rw [Nat.add_assoc, Nat.add_comm 1 k]
  exact hnext

theorem Holds.left {doc : Document} {i : Nat} {ns ms : List Node}
    (h : doc.Holds i (ns ++ ms)) : doc.Holds i ns := by
  intro k hk
  rw [h k (by simp; omega), List.getElem_append_left hk]

theorem Holds.right {doc : Document} {i : Nat} {ns ms : List Node}
    (h : doc.Holds i (ns ++ ms)) : doc.Holds (i + ns.length) ms := by
  intro k hk
  have hnext := h (ns.length + k) (by simp; omega)
  rw [Nat.add_assoc, hnext, List.getElem_append_right (Nat.le_add_right _ _)]
  simp

theorem holds_nodes (ns : List Node) : (Document.mk ns.toArray).Holds 0 ns := by
  intro k hk
  simp [node, hk]

mutual
theorem preorder_tree {doc : Document} {parent : Option Nat} {i : Nat} (t : Tree)
    (h : doc.Holds i (t.nodes parent i)) {rest after : List Nat} (hrest : doc.Preorder rest after) :
    doc.Preorder (i :: rest) (List.range' i t.size ++ after) := by
  cases t with
  | node e ts =>
    rw [Tree.nodes_node] at h
    have hchildren : doc.children i = Tree.positions (i + 1) ts := by
      rw [children, h.head]
    have hbelow := preorder_trees ts h.tail
    rw [← hchildren] at hbelow
    have hall := Preorder.cons hbelow hrest
    rw [Tree.size, List.range'_succ, List.cons_append]
    exact hall

theorem preorder_trees {doc : Document} {parent i : Nat} (ts : List Tree)
    (h : doc.Holds i (Tree.nodesAll parent i ts)) :
    doc.Preorder (Tree.positions i ts) (List.range' i (Tree.sizeAll ts)) := by
  cases ts with
  | nil => exact .nil
  | cons t ts =>
    rw [Tree.nodesAll] at h
    have hright := h.right
    rw [Tree.length_nodes] at hright
    have hall := preorder_tree t h.left (preorder_trees ts hright)
    rw [Tree.positions, Tree.sizeAll_cons, ← List.range'_append_1]
    exact hall
end

/-- The walk over the arena of a tree visits the positions in increasing order. -/
theorem preorder_ofTree (t : Tree) :
    (ofTree t).Preorder [0] (List.range (ofTree t).size) := by
  have h := preorder_tree t (holds_nodes (t.nodes none 0)) .nil
  rw [List.append_nil, ← List.range_eq_range'] at h
  rw [size_ofTree]
  exact h

end Document

namespace Spine

/-- The tree of a spine once all its elements are finished; the innermost one has further
children. -/
def treeWith : Spine → List Tree → Tree
  | root ts, more => .node .document (ts ++ more)
  | inside outer e ts, more => outer.treeWith [.node e (ts ++ more)]

def tree (sp : Spine) : Tree := sp.treeWith []

theorem tree_root (ts : List Tree) : (root ts).tree = .node .document ts := by
  rw [tree, treeWith, List.append_nil]

theorem ofTree_treeWith (sp : Spine) (more : List Tree) :
    Document.ofTree (sp.treeWith more) = (sp.withClosed (sp.closed ++ more)).doc := by
  induction sp generalizing more with
  | root ts =>
    simp [treeWith, Document.ofTree, doc, nodes, topNode, Tree.nodes_node, withClosed, closed,
      element, parent?, top]
  | inside outer e ts ih =>
    -- the further children belong to the innermost element, which is finished first
    rw [treeWith, ih]
    exact doc_add_node outer e (ts ++ more)

theorem doc_eq_ofTree (sp : Spine) : sp.doc = Document.ofTree sp.tree := by
  rw [tree, ofTree_treeWith, List.append_nil, withClosed_closed]

theorem preorder_doc (sp : Spine) : sp.doc.Preorder [0] (List.range sp.doc.size) := by
  rw [doc_eq_ofTree]
  exact Document.preorder_ofTree _

/-- Each open element is the last child of the one that it is in, and stays so whatever nodes come
after it. -/
theorem isChain_openNodes (sp : Spine) (more : List Nat) (rest : List Node) :
    sp.openNodes.IsChain fun inner outer =>
      (Document.mk (sp.nodes more ++ rest).toArray).lastChild? outer = some inner := by
  induction sp generalizing more rest with
  | root ts => exact .singleton 0
  | inside outer e ts ih =>
    obtain ⟨below, hbelow⟩ := openNodes_eq_cons outer
    have hchain := ih [outer.size]
      ((inside outer e ts).topNode more :: Tree.nodesAll outer.size (outer.size + 1) ts ++ rest)
    -- what comes after the outer elements' nodes does not change their last children
    rw [openNodes, nodes, List.append_assoc, hbelow]
    rw [hbelow] at hchain
    refine .cons_cons ?_ hchain
    simp [Document.lastChild?, Document.node, nodes_eq outer, topNode]

end Spine

namespace Document

theorem ofEvents_eq_doc (events : List Event) : ofEvents events = (Spine.ofEvents events).doc := by
  rw [ofEvents, Spine.foldl_push_new, Spine.builder]

theorem linked_ofEvents (events : List Event) : (ofEvents events).Linked := by
  rw [ofEvents_eq_doc]
  exact Spine.linked_doc _

theorem preorder_ofEvents (events : List Event) :
    (ofEvents events).Preorder [0] (List.range (ofEvents events).size) := by
  rw [ofEvents_eq_doc]
  exact Spine.preorder_doc _

end Document

end MarkdownPreview
