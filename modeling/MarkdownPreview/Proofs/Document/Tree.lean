import MarkdownPreview.Document.Basic

/-!
Trees of elements, and the arena of a tree. The arena lists the nodes in preorder, so a subtree
that begins at position `i` takes up the positions from `i` on, one for each of its nodes. Every
document that is built from events is the arena of a tree; the two views are joined here.
-/

namespace MarkdownPreview

inductive Tree
  | node (element : Element) (children : List Tree)
  deriving Repr, Inhabited

namespace Tree

def element : Tree → Element
  | node e _ => e

/-- A tree that is a single node. -/
def leaf (e : Element) : Tree := node e []

mutual
/-- The number of nodes. -/
def size : Tree → Nat
  | node _ ts => sizeAll ts + 1

def sizeAll : List Tree → Nat
  | [] => 0
  | t :: ts => t.size + sizeAll ts
end

/-- Where the trees of a list begin if the first begins at `i`. -/
def positions : Nat → List Tree → List Nat
  | _, [] => []
  | i, t :: ts => i :: positions (i + t.size) ts

mutual
/-- The nodes of a tree that begins at `i`, in preorder. -/
def nodes (parent : Option Nat) (i : Nat) : Tree → List Node
  | node e ts => ⟨e, parent, (positions (i + 1) ts).toArray⟩ :: nodesAll i (i + 1) ts

/-- The nodes of the children of `parent`, the first of which begins at `i`. -/
def nodesAll (parent i : Nat) : List Tree → List Node
  | [] => []
  | t :: ts => t.nodes (some parent) i ++ nodesAll parent (i + t.size) ts
end

@[simp] theorem sizeAll_nil : sizeAll [] = 0 := by
  simp [sizeAll]

@[simp] theorem sizeAll_cons (t : Tree) (ts : List Tree) :
    sizeAll (t :: ts) = t.size + sizeAll ts := by
  simp [sizeAll]

@[simp] theorem positions_append (i : Nat) (ts us : List Tree) :
    positions i (ts ++ us) = positions i ts ++ positions (i + sizeAll ts) us := by
  induction ts generalizing i with
  | nil => simp [positions]
  | cons t ts ih => simp [positions, ih, Nat.add_assoc]

@[simp] theorem positions_singleton (i : Nat) (t : Tree) : positions i [t] = [i] := rfl

@[simp] theorem nodesAll_append (parent i : Nat) (ts us : List Tree) :
    nodesAll parent i (ts ++ us) = nodesAll parent i ts ++ nodesAll parent (i + sizeAll ts) us := by
  induction ts generalizing i with
  | nil => simp [nodesAll]
  | cons t ts ih => simp [nodesAll, ih, Nat.add_assoc]

@[simp] theorem nodesAll_nil (parent i : Nat) : nodesAll parent i [] = [] := by
  simp [nodesAll]

@[simp] theorem nodesAll_singleton (parent i : Nat) (t : Tree) :
    nodesAll parent i [t] = t.nodes (some parent) i := by
  simp [nodesAll]

theorem nodes_node (parent : Option Nat) (i : Nat) (e : Element) (ts : List Tree) :
    (node e ts).nodes parent i =
      ⟨e, parent, (positions (i + 1) ts).toArray⟩ :: nodesAll i (i + 1) ts := by
  rw [nodes]

mutual
@[simp] theorem length_nodes (parent : Option Nat) (i : Nat) (t : Tree) :
    (t.nodes parent i).length = t.size := by
  cases t with
  | node e ts => simp [nodes, size, length_nodesAll]

@[simp] theorem length_nodesAll (parent i : Nat) (ts : List Tree) :
    (nodesAll parent i ts).length = sizeAll ts := by
  cases ts with
  | nil => simp
  | cons t ts => simp [nodesAll, length_nodes, length_nodesAll]
end

end Tree

/-- The arena of a tree. -/
def Document.ofTree (t : Tree) : Document := ⟨(t.nodes none 0).toArray⟩

@[simp] theorem Document.size_ofTree (t : Tree) : (Document.ofTree t).size = t.size := by
  simp [Document.ofTree, Document.size]

end MarkdownPreview
