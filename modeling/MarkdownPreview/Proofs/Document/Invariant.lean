import MarkdownPreview.Proofs.Document.Preorder

/-!
The invariant of the builder. After any events, balanced or not, the arena is linked consistently
and in preorder, and the stack of open elements is the rightmost path of the tree.
-/

namespace MarkdownPreview

namespace Document

theorem Linked.parent?_eq_none_iff {doc : Document} (h : doc.Linked) {i : Nat}
    (hi : i < doc.size) : doc.parent? i = none ↔ i = 0 := by
  constructor
  · intro hnone
    by_contra hne
    obtain ⟨p, -, hp⟩ := h.exists_parent i (Nat.pos_of_ne_zero hne) hi
    rw [hp] at hnone
    exact absurd hnone (by simp)
  · rintro rfl
    exact h.parent?_root

theorem Linked.parent_lt {doc : Document} (h : doc.Linked) {i p : Nat}
    (hp : doc.parent? i = some p) : p < i ∧ i < doc.size := by
  have hi : i < doc.size := by
    by_contra hge
    rw [parent?, node_eq_default (Nat.le_of_not_lt hge)] at hp
    exact absurd hp (by simp)
  have hpos : 0 < i := by
    by_contra hzero
    rw [Nat.eq_zero_of_not_pos hzero, h.parent?_root] at hp
    exact absurd hp (by simp)
  obtain ⟨q, hlt, hq⟩ := h.exists_parent i hpos hi
  rw [hp, Option.some_inj] at hq
  exact ⟨hq ▸ hlt, hi⟩

theorem Linked.mem_children_iff {doc : Document} (h : doc.Linked) {i p : Nat} :
    i ∈ doc.children p ↔ doc.parent? i = some p := by
  rw [h.children_eq, List.mem_filter, List.mem_range, decide_eq_true_eq]
  exact ⟨And.right, fun hp => ⟨(h.parent_lt hp).2, hp⟩⟩

theorem Linked.nodup_children {doc : Document} (h : doc.Linked) (p : Nat) :
    (doc.children p).Nodup := by
  rw [h.children_eq]
  exact List.nodup_range.filter _

theorem Linked.count_children {doc : Document} (h : doc.Linked) (i p : Nat) :
    (doc.children p).count i = if doc.parent? i = some p then 1 else 0 := by
  rw [(h.nodup_children p).count]
  simp only [h.mem_children_iff]

theorem Linked.getElem?_indexInParent {doc : Document} (h : doc.Linked) {i p : Nat}
    (hp : doc.parent? i = some p) : (doc.children p)[doc.indexInParent i]? = some i := by
  have hmem := h.mem_children_iff.mpr hp
  obtain ⟨k, hk⟩ := Option.isSome_iff_exists.mp (List.isSome_idxOf?.mpr hmem)
  obtain ⟨hlt, heq, -⟩ := List.idxOf?_eq_some_iff.mp hk
  rw [indexInParent, hp]
  simp only [hk, Option.getD_some]
  rw [List.getElem?_eq_getElem hlt, heq]

end Document

/-- What holds of a builder at all times: the links between the nodes, the path of open elements,
and the order of the nodes. -/
structure Builder.Sound (b : Builder) : Prop where
  element_root : b.doc.element 0 = .document
  parent?_eq_none_iff : ∀ i < b.doc.size, b.doc.parent? i = none ↔ i = 0
  parent_lt : ∀ i p, b.doc.parent? i = some p → p < i
  count_children : ∀ i p, (b.doc.children p).count i = if b.doc.parent? i = some p then 1 else 0
  children_lt : ∀ p, ∀ i ∈ b.doc.children p, i < b.doc.size
  getLast?_openNodes : b.openNodes.getLast? = some 0
  isChain_openNodes :
    b.openNodes.IsChain fun inner outer => b.doc.lastChild? outer = some inner
  preorder : b.doc.Preorder [0] (List.range b.doc.size)
  child_at_index : ∀ i < b.doc.size, i ≠ 0 →
    ∃ p, b.doc.parent? i = some p ∧ (b.doc.children p)[b.doc.indexInParent i]? = some i

theorem Spine.getLast?_openNodes (sp : Spine) : sp.openNodes.getLast? = some 0 := by
  induction sp with
  | root ts => rfl
  | inside outer e ts ih =>
    obtain ⟨rest, h⟩ := openNodes_eq_cons outer
    rw [openNodes, h, List.getLast?_cons_cons, ← h, ih]

theorem Spine.sound_builder (sp : Spine) : sp.builder.Sound where
  element_root := sp.linked_doc.element_root
  parent?_eq_none_iff _ hi := sp.linked_doc.parent?_eq_none_iff hi
  parent_lt _ _ hp := (sp.linked_doc.parent_lt hp).1
  count_children := sp.linked_doc.count_children
  children_lt _ _ hi := (sp.linked_doc.parent_lt (sp.linked_doc.mem_children_iff.mp hi)).2
  getLast?_openNodes := sp.getLast?_openNodes
  isChain_openNodes := by
    have h := sp.isChain_openNodes [] []
    rw [List.append_nil] at h
    exact h
  preorder := sp.preorder_doc
  child_at_index i hi hne := by
    obtain ⟨p, -, hp⟩ := sp.linked_doc.exists_parent i (Nat.pos_of_ne_zero hne) hi
    exact ⟨p, hp, sp.linked_doc.getElem?_indexInParent hp⟩

/-- The invariant holds after every number of events of every list, however they are nested. -/
theorem Builder.sound_foldl_push_take (events : List Event) (n : Nat) :
    ((events.take n).foldl Builder.push .new).Sound := by
  rw [Spine.foldl_push_new]
  exact Spine.sound_builder _

end MarkdownPreview
