import MarkdownPreview.Document.Builder
import MarkdownPreview.Proofs.Document.Tree

/-!
Spines: trees that are still being built. A spine is the path from the root to the innermost open
element, with the finished children of each element on the path. It is what a builder's arena and
stack of open elements stand for, and each operation of a builder is one on spines, whatever the
events are and however badly they are nested.
-/

namespace MarkdownPreview

inductive Spine
  | root (closed : List Tree)
  | inside (outer : Spine) (element : Element) (closed : List Tree)
  deriving Repr, Inhabited

/-- Changing the entry that comes after a known front part. -/
theorem modify_append_length {α : Type} (f : α → α) (xs ys : List α) (y : α) :
    (xs ++ y :: ys).modify xs.length f = xs ++ f y :: ys := by
  induction xs with
  | nil => rfl
  | cons x xs ih => simp [ih]

namespace Spine

open Tree (leaf)

def element : Spine → Element
  | root _ => .document
  | inside _ e _ => e

/-- The finished children of the innermost open element. -/
def closed : Spine → List Tree
  | root ts => ts
  | inside _ _ ts => ts

def size : Spine → Nat
  | root ts => Tree.sizeAll ts + 1
  | inside outer _ ts => outer.size + (Tree.sizeAll ts + 1)

/-- The position of the innermost open element. -/
def top : Spine → Nat
  | root _ => 0
  | inside outer _ _ => outer.size

def parent? : Spine → Option Nat
  | root _ => none
  | inside outer _ _ => some outer.top

def openNodes : Spine → List Nat
  | root _ => [0]
  | inside outer _ _ => outer.size :: outer.openNodes

/-- The node at the position of the innermost open element. Its open child, if there is one, is at
one of the positions `more`. -/
def topNode (sp : Spine) (more : List Nat) : Node :=
  ⟨sp.element, sp.parent?, (Tree.positions (sp.top + 1) sp.closed ++ more).toArray⟩

def nodes : Spine → List Nat → List Node
  | root ts, more => topNode (root ts) more :: Tree.nodesAll 0 1 ts
  | inside outer e ts, more =>
    outer.nodes [outer.size] ++
      topNode (inside outer e ts) more :: Tree.nodesAll outer.size (outer.size + 1) ts

/-- The nodes before the innermost open element. -/
def before : Spine → List Node
  | root _ => []
  | inside outer _ _ => outer.nodes [outer.size]

def doc (sp : Spine) : Document := ⟨(sp.nodes []).toArray⟩

/-- The builder that a spine describes. -/
def builder (sp : Spine) : Builder := ⟨sp.doc, sp.openNodes⟩

theorem nodes_eq (sp : Spine) (more : List Nat) :
    sp.nodes more =
      sp.before ++ sp.topNode more :: Tree.nodesAll sp.top (sp.top + 1) sp.closed := by
  cases sp <;> rfl

theorem size_eq (sp : Spine) : sp.size = sp.top + (Tree.sizeAll sp.closed + 1) := by
  cases sp with
  | root ts => exact (Nat.zero_add _).symm
  | inside outer e ts => rfl

theorem top_lt_size (sp : Spine) : sp.top < sp.size := by
  rw [size_eq]
  omega

@[simp] theorem length_nodes (sp : Spine) (more : List Nat) : (sp.nodes more).length = sp.size := by
  induction sp generalizing more with
  | root ts => simp [nodes, size]
  | inside outer e ts ih => simp [nodes, size, ih]

@[simp] theorem length_before (sp : Spine) : sp.before.length = sp.top := by
  cases sp with
  | root ts => rfl
  | inside outer e ts => exact length_nodes outer _

@[simp] theorem size_doc (sp : Spine) : sp.doc.size = sp.size := by
  simp [doc, Document.size]

theorem openNodes_eq_cons (sp : Spine) : ∃ rest, sp.openNodes = sp.top :: rest := by
  cases sp with
  | root ts => exact ⟨[], rfl⟩
  | inside outer e ts => exact ⟨outer.openNodes, rfl⟩

@[simp] theorem top_builder (sp : Spine) : sp.builder.top = sp.top := by
  cases sp <;> rfl

theorem node_top (sp : Spine) : sp.doc.node sp.top = sp.topNode [] := by
  simp [doc, Document.node, nodes_eq]

@[simp] theorem topElement_builder (sp : Spine) : sp.builder.topElement = sp.element := by
  simp only [Builder.topElement, Document.element, top_builder]
  exact congrArg Node.element sp.node_top

/-! ### Operations -/

def withClosed : Spine → List Tree → Spine
  | root _, ts => root ts
  | inside outer e _, ts => inside outer e ts

/-- Adds a finished child to the innermost open element. -/
def add (sp : Spine) (t : Tree) : Spine := sp.withClosed (sp.closed ++ [t])

/-- Finishes the innermost open element; the root stays open. -/
def close : Spine → Spine
  | root ts => root ts
  | inside outer e ts => outer.add (.node e ts)

/-- Changes the innermost open element; the root stays a document. -/
def mapElement (f : Element → Element) : Spine → Spine
  | root ts => root ts
  | inside outer e ts => inside outer (f e) ts

@[simp] theorem element_withClosed (sp : Spine) (ts : List Tree) :
    (sp.withClosed ts).element = sp.element := by
  cases sp <;> rfl

@[simp] theorem closed_withClosed (sp : Spine) (ts : List Tree) :
    (sp.withClosed ts).closed = ts := by
  cases sp <;> rfl

@[simp] theorem top_withClosed (sp : Spine) (ts : List Tree) :
    (sp.withClosed ts).top = sp.top := by
  cases sp <;> rfl

@[simp] theorem parent?_withClosed (sp : Spine) (ts : List Tree) :
    (sp.withClosed ts).parent? = sp.parent? := by
  cases sp <;> rfl

@[simp] theorem before_withClosed (sp : Spine) (ts : List Tree) :
    (sp.withClosed ts).before = sp.before := by
  cases sp <;> rfl

@[simp] theorem openNodes_withClosed (sp : Spine) (ts : List Tree) :
    (sp.withClosed ts).openNodes = sp.openNodes := by
  cases sp <;> rfl

@[simp] theorem withClosed_closed (sp : Spine) : sp.withClosed sp.closed = sp := by
  cases sp <;> rfl

@[simp] theorem withClosed_withClosed (sp : Spine) (ts us : List Tree) :
    (sp.withClosed ts).withClosed us = sp.withClosed us := by
  cases sp <;> rfl

/-! ### The arena of a changed spine -/

/-- A child that is added comes after all that is there. -/
theorem nodes_add (sp : Spine) (t : Tree) (more : List Nat) :
    (sp.add t).nodes more = sp.nodes (sp.size :: more) ++ t.nodes (some sp.top) sp.size := by
  have hnext : sp.top + 1 + Tree.sizeAll sp.closed = sp.size := by
    rw [size_eq]
    omega
  simp [nodes_eq, add, topNode, hnext]

theorem nodes_inside (sp : Spine) (e : Element) (ts : List Tree) (more : List Nat) :
    (inside sp e ts).nodes more =
      sp.nodes [sp.size] ++
        ⟨e, some sp.top, (Tree.positions (sp.size + 1) ts ++ more).toArray⟩ ::
          Tree.nodesAll sp.size (sp.size + 1) ts := rfl

theorem append_doc (sp : Spine) (e : Element) :
    sp.doc.append sp.top e =
      Document.mk (sp.nodes [sp.size] ++ [(⟨e, some sp.top, #[]⟩ : Node)]).toArray := by
  have hmodify := modify_append_length
    (fun n : Node => { n with children := n.children.push sp.size })
    sp.before (Tree.nodesAll sp.top (sp.top + 1) sp.closed ++ [⟨e, some sp.top, #[]⟩])
    (sp.topNode [])
  rw [length_before] at hmodify
  simp only [Document.append, size_doc]
  simp only [doc, List.push_toArray, List.modify_toArray, nodes_eq,
    List.append_assoc, List.cons_append]
  rw [hmodify]
  simp [topNode]

theorem doc_inside (sp : Spine) (e : Element) : (inside sp e []).doc = sp.doc.append sp.top e := by
  rw [append_doc, doc, nodes_inside]
  simp [Tree.positions]

theorem doc_add_leaf (sp : Spine) (e : Element) :
    (sp.add (leaf e)).doc = sp.doc.append sp.top e := by
  rw [append_doc, doc, nodes_add, leaf, Tree.nodes_node]
  simp [Tree.positions]

/-- Finishing an element changes nothing in the arena. -/
theorem doc_add_node (sp : Spine) (e : Element) (ts : List Tree) :
    (sp.add (.node e ts)).doc = (inside sp e ts).doc := by
  rw [doc, doc, nodes_add, nodes_inside, Tree.nodes_node, List.append_nil]

theorem doc_mapElement (sp : Spine) {f : Element → Element} (hroot : f .document = .document) :
    (sp.mapElement f).doc = sp.doc.modifyElement sp.top f := by
  have hmodify := modify_append_length (fun n : Node => { n with element := f n.element })
    sp.before (Tree.nodesAll sp.top (sp.top + 1) sp.closed) (sp.topNode [])
  rw [length_before] at hmodify
  rw [doc, doc, Document.modifyElement, List.modify_toArray, nodes_eq sp, hmodify]
  cases sp with
  | root ts => simp [mapElement, nodes, topNode, before, closed, top, element, hroot, parent?]
  | inside outer e ts => rfl

theorem lastChild?_of_closed_eq_nil {sp : Spine} (h : sp.closed = []) :
    sp.doc.lastChild? sp.top = none := by
  rw [Document.lastChild?, node_top, topNode, h]
  rfl

theorem lastChild?_add (sp : Spine) (t : Tree) :
    (sp.add t).doc.lastChild? sp.top = some sp.size := by
  have htop : (sp.add t).top = sp.top := top_withClosed _ _
  rw [Document.lastChild?, ← htop, node_top, topNode, htop]
  simp [add, size_eq]
  omega

theorem node_size_add (sp : Spine) (e : Element) (ts : List Tree) :
    ((sp.add (.node e ts)).doc.node sp.size).element = e := by
  simp [doc, Document.node, nodes_add, Tree.nodes_node]

theorem doc_add_map (sp : Spine) (f : Element → Element) (e : Element) (ts : List Tree) :
    (sp.add (.node (f e) ts)).doc =
      (sp.add (.node e ts)).doc.modifyElement sp.size f := by
  have hmodify := modify_append_length (fun n : Node => { n with element := f n.element })
    (sp.nodes [sp.size]) (Tree.nodesAll sp.size (sp.size + 1) ts)
    ⟨e, some sp.top, (Tree.positions (sp.size + 1) ts).toArray⟩
  rw [length_nodes] at hmodify
  rw [doc, doc, Document.modifyElement, List.modify_toArray, nodes_add, nodes_add,
    Tree.nodes_node, Tree.nodes_node, hmodify]

end Spine

end MarkdownPreview
