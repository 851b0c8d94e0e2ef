import Mathlib.Tactic.SplitIfs
import MarkdownPreview.Proofs.Document.Simulation

/-!
How the nodes of a document are linked. A document grows by adding nodes under nodes that are
there, so parents come first and the lists of children say the same as the parents do. The arena of
a spine is such a document, for every spine and so after any events at all.
-/

namespace MarkdownPreview

namespace Document

/-- Documents that are built by adding nodes under nodes that are there. -/
inductive Grown : Document → Prop
  | empty : Grown .empty
  | append {doc : Document} {parent : Nat} (e : Element) :
      Grown doc → parent < doc.size → Grown (doc.append parent e)

/-- Parents come before their children, and every node but the root is listed once, by its
parent. -/
structure Linked (doc : Document) : Prop where
  size_pos : 0 < doc.size
  element_root : doc.element 0 = .document
  parent?_root : doc.parent? 0 = none
  exists_parent : ∀ i, 0 < i → i < doc.size → ∃ p < i, doc.parent? i = some p
  children_eq : ∀ p, doc.children p =
    (List.range doc.size).filter fun i => decide (doc.parent? i = some p)

theorem node_append {doc : Document} {parent : Nat} (h : parent < doc.size) (e : Element)
    (i : Nat) :
    (doc.append parent e).node i =
      if i = doc.size then ⟨e, some parent, #[]⟩
      else if i = parent then
        { doc.node i with children := (doc.node i).children.push doc.size }
      else doc.node i := by
  simp only [size] at h
  simp only [append, node, size, Array.getD_eq_getD_getElem?, Array.getElem?_modify,
    Array.getElem?_push]
  by_cases hi : i = doc.nodes.size
  · simp [hi, Nat.ne_of_lt h]
  · by_cases hp : i = parent
    · subst hp
      simp [hi, h]
    · simp [hi, hp, Ne.symm hp]

theorem size_append (doc : Document) (parent : Nat) (e : Element) :
    (doc.append parent e).size = doc.size + 1 := by
  simp [append, size]

theorem element_append {doc : Document} {parent : Nat} (h : parent < doc.size) (e : Element)
    (i : Nat) : (doc.append parent e).element i = if i = doc.size then e else doc.element i := by
  rw [element, node_append h]
  split_ifs <;> rfl

theorem parent?_append {doc : Document} {parent : Nat} (h : parent < doc.size) (e : Element)
    (i : Nat) :
    (doc.append parent e).parent? i = if i = doc.size then some parent else doc.parent? i := by
  rw [parent?, node_append h]
  split_ifs <;> rfl

theorem node_eq_default {doc : Document} {i : Nat} (h : doc.size ≤ i) :
    doc.node i = ⟨.document, none, #[]⟩ := by
  simp only [size] at h
  simp [node, h]

theorem element_of_size_le {doc : Document} {i : Nat} (h : doc.size ≤ i) :
    doc.element i = .document := by
  rw [element, node_eq_default h]

theorem children_append {doc : Document} {parent : Nat} (h : parent < doc.size) (e : Element)
    (i : Nat) :
    (doc.append parent e).children i =
      if i = parent then doc.children i ++ [doc.size] else doc.children i := by
  rw [children, node_append h]
  by_cases hi : i = doc.size
  · have hne : doc.size ≠ parent := by omega
    simp [hi, hne, children, node_eq_default]
  · split_ifs <;> simp [children]

theorem linked_empty : Linked .empty where
  size_pos := Nat.one_pos
  element_root := rfl
  parent?_root := rfl
  exists_parent i hpos hlt := by
    have hone : Document.empty.size = 1 := rfl
    omega
  children_eq p := by
    cases p <;> rfl

theorem Linked.append {doc : Document} (hdoc : Linked doc) {parent : Nat} (h : parent < doc.size)
    (e : Element) : Linked (doc.append parent e) where
  size_pos := by
    rw [size_append]
    omega
  element_root := by
    have hpos := hdoc.size_pos
    rw [element_append h, if_neg (by omega), hdoc.element_root]
  parent?_root := by
    have hpos := hdoc.size_pos
    rw [parent?_append h, if_neg (by omega), hdoc.parent?_root]
  exists_parent i hpos hlt := by
    rw [size_append] at hlt
    rw [parent?_append h]
    split
    · next hi => exact ⟨parent, by omega, rfl⟩
    · next hi => exact hdoc.exists_parent i hpos (by omega)
  children_eq p := by
    have hold : ∀ i ∈ List.range doc.size,
        decide ((doc.append parent e).parent? i = some p) = decide (doc.parent? i = some p) := by
      intro i hi
      rw [parent?_append h, if_neg (by simpa using Nat.ne_of_lt (List.mem_range.mp hi))]
    rw [children_append h, size_append, List.range_succ, List.filter_append,
      List.filter_congr hold, ← hdoc.children_eq]
    by_cases hp : p = parent
    · simp [hp, parent?_append h]
    · simp [hp, Ne.symm hp, parent?_append h]

theorem Grown.linked {doc : Document} (h : Grown doc) : Linked doc := by
  induction h with
  | empty => exact linked_empty
  | append e _ hparent ih => exact ih.append hparent e

end Document

namespace Spine

theorem grown_inside {sp : Spine} (h : sp.doc.Grown) (e : Element) :
    (inside sp e []).doc.Grown := by
  rw [doc_inside]
  exact .append e h (by simpa using sp.top_lt_size)

mutual
theorem grown_add (sp : Spine) (h : sp.doc.Grown) (t : Tree) : (sp.add t).doc.Grown := by
  cases t with
  | node e ts =>
    rw [doc_add_node]
    exact grown_addAll (inside sp e []) (grown_inside h e) ts

theorem grown_addAll (sp : Spine) (h : sp.doc.Grown) (ts : List Tree) :
    (sp.withClosed (sp.closed ++ ts)).doc.Grown := by
  cases ts with
  | nil => simpa using h
  | cons t ts =>
    have hrest := grown_addAll (sp.add t) (grown_add sp h t) ts
    simpa [add] using hrest
end

theorem grown_doc (sp : Spine) : sp.doc.Grown := by
  induction sp with
  | root ts => exact grown_addAll (root []) .empty ts
  | inside outer e ts ih => exact grown_addAll (inside outer e []) (grown_inside ih e) ts

theorem linked_doc (sp : Spine) : sp.doc.Linked := sp.grown_doc.linked

end Spine

end MarkdownPreview
