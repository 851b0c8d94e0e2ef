import MarkdownPreview.Proofs.Document.Sequence
import MarkdownPreview.Proofs.Render.Transcript

/-!
Documents one after the other. Default markup looks at an element, at the text below it and, in a
table, at the row and the column, but never at where in the document a node is. So trees are
written in the same way wherever they stand, and a document of events after events is written as
the two documents are, if the heading counts go from the one to the other.
-/

namespace MarkdownPreview

namespace Tree

mutual
/-- The text of a tree. -/
def plainText : Tree → String
  | node (.text literal) _ | node (.code literal) _ => literal
  | node .softBreak _ | node .hardBreak _ => " "
  | node _ ts => plainTextAll ts

def plainTextAll : List Tree → String
  | [] => ""
  | t :: ts => t.plainText ++ plainTextAll ts
end

end Tree

namespace Render

/-- What default markup looks at in a node. -/
structure Sight where
  element : Element
  text : String
  cellTag : String
  cellStyle : String

def sight (doc : Document) (i : Nat) : Sight :=
  ⟨doc.element i, doc.plainText i, cellTag doc i, cellStyle doc i⟩

theorem markup_congr {doc doc' : Document} {i i' : Nat} (h : sight doc i = sight doc' i') :
    markup doc i = markup doc' i' := by
  obtain ⟨helement, htext, htag, hstyle⟩ := Sight.mk.inj h
  funext entering ids
  rw [markup, markup, helement, htext]
  split
  · rfl
  · next e _ => cases e <;> simp [pieces, htext, htag, hstyle]

/-- A cell's tag, by the elements that it is in, the innermost first. -/
def rowTag (around : List Element) : String :=
  if around.head? = some .tableHead then "th" else "td"

/-- A cell's style, by the elements that it is in and its column. -/
def columnStyle (around : List Element) (column : Nat) : String :=
  match around with
  | _ :: .table alignments :: _ => alignmentStyle (alignments.getD column .none)
  | _ => ""

end Render

namespace Tree

open Render (Sight rowTag columnStyle descent)

mutual
/-- What default markup sees on the walk over a tree, with the elements that the tree is in and its
place among their children. -/
def sights (around : List Element) (place : Nat) : Tree → List (Bool × Sight)
  | node e ts =>
    let seen : Sight := ⟨e, (node e ts).plainText, rowTag around, columnStyle around place⟩
    (true, seen) ::
      if e.isContainer then
        (match descent true e with
          | .children => sightsAll (e :: around) 0 ts
          | .skip => []) ++ [(false, seen)]
      else []

def sightsAll (around : List Element) (place : Nat) : List Tree → List (Bool × Sight)
  | [] => []
  | t :: ts => t.sights around place ++ sightsAll around (place + 1) ts
end

theorem sightsAll_append (around : List Element) (place : Nat) (us ts : List Tree) :
    sightsAll around place (us ++ ts) =
      sightsAll around place us ++ sightsAll around (place + us.length) ts := by
  induction us generalizing place with
  | nil => simp [sightsAll]
  | cons u us ih =>
    rw [List.cons_append, sightsAll, ih, sightsAll, List.append_assoc, List.length_cons,
      Nat.add_assoc, Nat.add_comm 1]

/-- Outside of a table the place does not matter. -/
theorem sightsAll_root (place place' : Nat) (ts : List Tree) :
    sightsAll [.document] place ts = sightsAll [.document] place' ts := by
  induction ts generalizing place place' with
  | nil => simp [sightsAll]
  | cons t ts ih =>
    obtain ⟨e, us⟩ := t
    simp only [sightsAll, sights, columnStyle, ih (place + 1) (place' + 1)]

end Tree

namespace Document

open Tree (plainTextAll)

mutual
theorem plainTextTo_tree {doc : Document} {parent : Option Nat} {i : Nat} (depth : Nat) (t : Tree)
    (h : doc.Holds i (t.nodes parent i)) (hdepth : t.size ≤ depth) :
    doc.plainTextTo depth i = t.plainText := by
  obtain ⟨e, ts⟩ := t
  rw [Tree.nodes_node] at h
  rw [Tree.size] at hdepth
  obtain ⟨depth, rfl⟩ := Nat.exists_eq_add_of_le' hdepth
  have helement : doc.element i = e := by rw [element, h.head]
  have hchildren : doc.children i = Tree.positions (i + 1) ts := by rw [children, h.head]
  have hbelow := plainTextTo_trees (depth + Tree.sizeAll ts) ts h.tail (by omega)
  rw [← hchildren] at hbelow
  rw [← Nat.add_assoc, plainTextTo, helement]
  cases e <;> simp [Tree.plainText, hbelow]

theorem plainTextTo_trees {doc : Document} {parent i : Nat} (depth : Nat) (ts : List Tree)
    (h : doc.Holds i (Tree.nodesAll parent i ts)) (hdepth : Tree.sizeAll ts ≤ depth) :
    String.join ((Tree.positions i ts).map (doc.plainTextTo depth)) = plainTextAll ts := by
  cases ts with
  | nil => simp [Tree.positions, plainTextAll]
  | cons t ts =>
    rw [Tree.nodesAll] at h
    rw [Tree.sizeAll_cons] at hdepth
    have hright := h.right
    rw [Tree.length_nodes] at hright
    rw [Tree.positions, List.map_cons, String.join_cons,
      plainTextTo_tree depth t h.left (by omega), plainTextTo_trees depth ts hright (by omega),
      plainTextAll]
end

end Document

namespace Render

open Tree (sights sightsAll)

/-- A node is in these elements, the innermost first. -/
def Around (doc : Document) : List Element → Option Nat → Prop
  | [], parent => parent = none
  | e :: es, parent => ∃ p, parent = some p ∧ doc.element p = e ∧ Around doc es (doc.parent? p)

theorem cellTag_of_around {doc : Document} {around : List Element} {i : Nat}
    (h : Around doc around (doc.parent? i)) : cellTag doc i = rowTag around := by
  cases around with
  | nil => rw [cellTag, h]; rfl
  | cons e es =>
    obtain ⟨p, hp, helement, -⟩ := h
    simp [cellTag, hp, helement, rowTag]

theorem cellStyle_of_around {doc : Document} {around : List Element} {i : Nat}
    (h : Around doc around (doc.parent? i)) :
    cellStyle doc i = columnStyle around (doc.indexInParent i) := by
  rcases around with - | ⟨e, - | ⟨table, es⟩⟩
  · simp [cellStyle, show doc.parent? i = none from h, columnStyle]
  · obtain ⟨p, hp, -, hnone⟩ := h
    simp [cellStyle, hp, show doc.parent? p = none from hnone, columnStyle]
  · obtain ⟨p, hp, -, q, hq, htable, -⟩ := h
    simp only [cellStyle, hp, hq, htable, Option.bind_some]
    cases table <;> rfl

def visitSight (doc : Document) (v : Visit) : Bool × Sight := (v.entering, sight doc v.node)

theorem indexInParent_eq {doc : Document} (linked : doc.Linked) {i p place : Nat}
    (hp : doc.parent? i = some p) (h : (doc.children p)[place]? = some i) :
    doc.indexInParent i = place := by
  have hindex := linked.getElem?_indexInParent hp
  have hlt := (List.getElem?_eq_some_iff.mp hindex).1
  exact (List.getElem?_inj hlt (linked.nodup_children p)).mp (hindex.trans h.symm)

mutual
/-- The walk over a tree sees the same wherever the tree begins. -/
theorem map_visitSight_tree {doc : Document} (linked : doc.Linked) {around : List Element}
    {parent : Option Nat} {i : Nat} (depth : Nat) (t : Tree) (h : doc.Holds i (t.nodes parent i))
    (haround : Around doc around parent) (hsize : i + t.size ≤ doc.size)
    (hdepth : t.size ≤ depth) :
    (tourTo doc depth i).map (visitSight doc) = t.sights around (doc.indexInParent i) := by
  have htext := Document.plainTextTo_tree doc.size t h (by omega)
  obtain ⟨e, ts⟩ := t
  rw [Tree.size] at hsize hdepth
  obtain ⟨depth, rfl⟩ := Nat.exists_eq_add_of_le' (Nat.le_of_add_left_le hdepth)
  rw [Tree.nodes_node] at h
  have helement : doc.element i = e := by rw [Document.element, h.head]
  have hparent : doc.parent? i = parent := by rw [Document.parent?, h.head]
  have hchildren : doc.children i = Tree.positions (i + 1) ts := by
    rw [Document.children, h.head]
  rw [← hparent] at haround
  have hinside : Around doc (e :: around) (some i) := ⟨i, rfl, helement, haround⟩
  have hplace : (doc.children i).drop 0 = Tree.positions (i + 1) ts := hchildren
  have hbelow := map_visitSight_trees linked depth ts h.tail hinside hplace (by omega) (by omega)
  have hsight : sight doc i = ⟨e, (Tree.node e ts).plainText, rowTag around,
      columnStyle around (doc.indexInParent i)⟩ := by
    rw [sight, helement, cellTag_of_around haround, cellStyle_of_around haround,
      Document.plainText, htext]
  have henter : visitSight doc (.enter i) = (true, sight doc i) := rfl
  have hleave : visitSight doc (.leave i) = (false, sight doc i) := rfl
  rw [tourTo, List.map_cons, henter, sights, helement, hsight]
  cases e.isContainer with
  | false => rfl
  | true =>
    simp only [if_true, List.map_append, List.map_cons, List.map_nil, hleave, hsight]
    cases descent true e with
    | children => rw [hchildren, hbelow]
    | skip => rfl

/-- So does the walk over some of a node's children. -/
theorem map_visitSight_trees {doc : Document} (linked : doc.Linked) {around : List Element}
    {parent i place : Nat} (depth : Nat) (ts : List Tree)
    (h : doc.Holds i (Tree.nodesAll parent i ts)) (haround : Around doc around (some parent))
    (hplace : (doc.children parent).drop place = Tree.positions i ts)
    (hsize : i + Tree.sizeAll ts ≤ doc.size) (hdepth : Tree.sizeAll ts ≤ depth) :
    ((Tree.positions i ts).flatMap (tourTo doc depth)).map (visitSight doc) =
      sightsAll around place ts := by
  cases ts with
  | nil => simp [Tree.positions, sightsAll]
  | cons t ts =>
    rw [Tree.nodesAll] at h
    rw [Tree.sizeAll_cons] at hsize hdepth
    have hright := h.right
    rw [Tree.length_nodes] at hright
    rw [Tree.positions] at hplace
    have hchild : (doc.children parent)[place]? = some i := by
      rw [← List.head?_drop, hplace]
      rfl
    have hmem : i ∈ doc.children parent := List.mem_of_getElem? hchild
    have hindex := indexInParent_eq linked (linked.mem_children_iff.mp hmem) hchild
    have hrest : (doc.children parent).drop (place + 1) = Tree.positions (i + t.size) ts := by
      rw [← List.tail_drop, hplace]
      rfl
    have hfirst := map_visitSight_tree linked depth t h.left haround (by omega) (by omega)
    have hafter := map_visitSight_trees linked depth ts hright haround hrest (by omega) (by omega)
    rw [Tree.positions, List.flatMap_cons, List.map_append, hfirst, hafter, hindex, sightsAll]
end

/-! ### What is written for trees -/

/-- What default markup writes at visits, and the heading counts after them. -/
def writes (doc : Document) (visits : List Visit) (ids : HeadingIds) : String × HeadingIds :=
  (String.join ((Script.none.entries doc ids visits).map Entry.html),
    visits.foldl (Script.none.countsAfter doc) ids)

theorem writes_nil (doc : Document) (ids : HeadingIds) : writes doc [] ids = ("", ids) := by
  rw [writes, Script.entries, List.map_nil, String.join_nil, List.foldl_nil]

theorem writes_append (doc : Document) (visits visits' : List Visit) (ids : HeadingIds) :
    writes doc (visits ++ visits') ids =
      ((writes doc visits ids).1 ++ (writes doc visits' (writes doc visits ids).2).1,
        (writes doc visits' (writes doc visits ids).2).2) := by
  simp only [writes, entries_append, List.map_append, String.join_append, List.foldl_append]

theorem writes_cons (doc : Document) (v : Visit) (visits : List Visit) (ids : HeadingIds) :
    writes doc (v :: visits) ids =
      (String.join (markup doc v.node v.entering ids).1 ++
          (writes doc visits (markup doc v.node v.entering ids).2).1,
        (writes doc visits (markup doc v.node v.entering ids).2).2) := by
  rw [← List.singleton_append, writes_append]
  simp only [writes, Script.entries, List.map_cons, List.map_nil, join_singleton]
  rfl

/-- What is written at visits is said by what is seen at them. -/
theorem writes_congr {doc doc' : Document} {visits visits' : List Visit}
    (h : visits.map (visitSight doc) = visits'.map (visitSight doc')) (ids : HeadingIds) :
    writes doc visits ids = writes doc' visits' ids := by
  induction visits generalizing visits' ids with
  | nil =>
    cases visits' with
    | nil => rw [writes_nil, writes_nil]
    | cons v' visits' => cases h
  | cons v visits ih =>
    cases visits' with
    | nil => cases h
    | cons v' visits' =>
      rw [List.map_cons, List.map_cons, List.cons.injEq] at h
      have hentering : v.entering = v'.entering := congrArg Prod.fst h.1
      have hsight : sight doc v.node = sight doc' v'.node := congrArg Prod.snd h.1
      rw [writes_cons, writes_cons, markup_congr hsight, hentering, ih h.2]

/-- The document whose root has these trees. -/
def rowDocument (ts : List Tree) : Document := .ofTree (.node .document ts)

/-- The visits to the trees of a document. -/
def rowVisits (ts : List Tree) : List Visit :=
  (Tree.positions 1 ts).flatMap (tourTo (rowDocument ts) (Tree.sizeAll ts))

/-- What is written for trees, and the heading counts after it. -/
def rowWrites (ts : List Tree) (ids : HeadingIds) : String × HeadingIds :=
  writes (rowDocument ts) (rowVisits ts) ids

theorem linked_rowDocument (ts : List Tree) : (rowDocument ts).Linked := by
  rw [rowDocument, ← Spine.tree_root, ← Spine.doc_eq_ofTree]
  exact Spine.linked_doc _

theorem holds_rowDocument (ts : List Tree) :
    (rowDocument ts).Holds 0
      (⟨.document, none, (Tree.positions 1 ts).toArray⟩ :: Tree.nodesAll 0 1 ts) := by
  have h := Document.holds_nodes ((Tree.node .document ts).nodes none 0)
  rwa [Tree.nodes_node] at h

theorem size_rowDocument (ts : List Tree) : (rowDocument ts).size = Tree.sizeAll ts + 1 := by
  rw [rowDocument, Document.size_ofTree, Tree.size]

theorem element_rowDocument_root (ts : List Tree) : (rowDocument ts).element 0 = .document := by
  rw [Document.element, (holds_rowDocument ts).head]

theorem children_rowDocument_root (ts : List Tree) :
    (rowDocument ts).children 0 = Tree.positions 1 ts := by
  rw [Document.children, (holds_rowDocument ts).head]

theorem map_visitSight_rowVisits (ts : List Tree) :
    (rowVisits ts).map (visitSight (rowDocument ts)) = sightsAll [.document] 0 ts := by
  refine map_visitSight_trees (linked_rowDocument ts) _ ts (holds_rowDocument ts).tail
    ⟨0, rfl, element_rowDocument_root ts, (linked_rowDocument ts).parent?_root⟩
    (children_rowDocument_root ts) ?_ (Nat.le_refl _)
  rw [size_rowDocument]
  omega

/-- Nothing is written for the root itself. -/
theorem writes_tour_rowDocument (ts : List Tree) (ids : HeadingIds) :
    writes (rowDocument ts) (tour (rowDocument ts)) ids = rowWrites ts ids := by
  have hroot (entering : Bool) (ids : HeadingIds) :
      markup (rowDocument ts) 0 entering ids = ([], ids) := by
    rw [markup, element_rowDocument_root]
    rfl
  have htour : tour (rowDocument ts) = [.enter 0] ++ (rowVisits ts ++ [.leave 0]) := by
    rw [tour, size_rowDocument, tourTo, element_rowDocument_root, children_rowDocument_root]
    rfl
  have hends (v : Visit) (hv : v.node = 0) (ids : HeadingIds) :
      writes (rowDocument ts) [v] ids = ("", ids) := by
    rw [writes_cons, hv, hroot]
    rfl
  rw [htour, writes_append, writes_append, hends _ rfl, hends _ rfl, String.empty_append,
    String.append_empty]
  rfl

theorem rowWrites_append (us ts : List Tree) (ids : HeadingIds) :
    rowWrites (us ++ ts) ids =
      ((rowWrites us ids).1 ++ (rowWrites ts (rowWrites us ids).2).1,
        (rowWrites ts (rowWrites us ids).2).2) := by
  have hsights := map_visitSight_rowVisits (us ++ ts)
  rw [Tree.sightsAll_append, Tree.sightsAll_root (0 + us.length) 0 ts,
    ← map_visitSight_rowVisits us, ← map_visitSight_rowVisits ts,
    List.map_eq_append_iff] at hsights
  obtain ⟨first, second, hvisits, hfirst, hsecond⟩ := hsights
  rw [rowWrites, hvisits, writes_append, writes_congr hfirst, writes_congr hsecond]
  rfl

theorem rowWrites_text (s : String) (us : List Tree) (ids : HeadingIds) :
    rowWrites [.node (.text s) us] ids = (Html.escape s, ids) := by
  have hsights := map_visitSight_rowVisits [.node (.text s) us]
  simp only [sightsAll, sights, Element.isContainer, Bool.false_eq_true, if_false,
    List.append_nil, List.map_eq_singleton_iff] at hsights
  obtain ⟨v, hvisits, hv⟩ := hsights
  obtain ⟨-, hsight⟩ := Prod.mk.inj hv
  have helement : (rowDocument [.node (.text s) us]).element v.node = .text s :=
    congrArg Sight.element hsight
  rw [rowWrites, hvisits, writes_cons, markup, helement]
  simp [pieces, writes, Script.entries]

theorem rowWrites_text_cons (s : String) (us ts : List Tree) (ids : HeadingIds) :
    rowWrites (.node (.text s) us :: ts) ids =
      (Html.escape s ++ (rowWrites ts ids).1, (rowWrites ts ids).2) := by
  have h := rowWrites_append [.node (.text s) us] ts ids
  rwa [rowWrites_text] at h

/-- Texts that become one are written as they were. -/
theorem rowWrites_joinText (t : Tree) (ts : List Tree) (ids : HeadingIds) :
    rowWrites (t.joinText ts) ids = rowWrites (t :: ts) ids := by
  fun_cases Tree.joinText t ts with
  | case1 a us b vs ts =>
    simp only [rowWrites_text_cons, Html.escape_append, String.append_assoc]
  | case2 => rfl

theorem rowWrites_joinTrees (us ts : List Tree) (ids : HeadingIds) :
    rowWrites (Tree.joinTrees us ts) ids = rowWrites (us ++ ts) ids := by
  induction us generalizing ids with
  | nil => rfl
  | cons u us ih =>
    have hcons (more : List Tree) := rowWrites_append [u] more ids
    rw [Tree.joinTrees_cons, rowWrites_joinText, List.cons_append, ← List.singleton_append, hcons,
      ih, ← hcons, List.singleton_append]

/-! ### Events after events -/

section

variable {σ : Type} {stream : Stream σ} {text : σ → String}

theorem render_rowDocument (hstream : stream.Keeps text) {events : List Event} {ts : List Tree}
    (h : .ofEvents events = rowDocument ts) (ids : HeadingIds) (s : σ) :
    ∃ s', render stream noHook (.ofEvents events) ids s = (none, (rowWrites ts ids).2, s') ∧
      text s' = text s ++ (rowWrites ts ids).1 := by
  have hrender := render_eq_transcript hstream events (keepsTour_none _) ids s
  rw [hook_none, Script.finalCounts, Script.transcript, h] at hrender
  have hwrites := writes_tour_rowDocument ts ids
  rw [writes] at hwrites
  rw [h, ← hwrites]
  exact hrender

end

/-- If nothing but the root is open after the first of two lists of events, then the documents of
the two lists, rendered one after the other on streams that never fail, come to what the document
of both lists comes to: the same text, and the same heading counts after it. -/
theorem render_ofEvents_append {σ₁ σ₂ σ₃ : Type} {stream₁ : Stream σ₁} {stream₂ : Stream σ₂}
    {stream₃ : Stream σ₃} {text₁ : σ₁ → String} {text₂ : σ₂ → String} {text₃ : σ₃ → String}
    (h₁ : stream₁.Keeps text₁) (h₂ : stream₂.Keeps text₂) (h₃ : stream₃.Keeps text₃)
    (before events : List Event) (hroot : (before.foldl Builder.push .new).openNodes = [0])
    (ids : HeadingIds) (s₁ : σ₁) (s₂ : σ₂) (s₃ : σ₃) :
    ∃ html₁ html₂ ids₁ ids₂ s₁' s₂' s₃',
      (render stream₁ noHook (.ofEvents before) ids s₁ = (none, ids₁, s₁') ∧
        text₁ s₁' = text₁ s₁ ++ html₁) ∧
      (render stream₂ noHook (.ofEvents events) ids₁ s₂ = (none, ids₂, s₂') ∧
        text₂ s₂' = text₂ s₂ ++ html₂) ∧
      render stream₃ noHook (.ofEvents (before ++ events)) ids s₃ = (none, ids₂, s₃') ∧
        text₃ s₃' = text₃ s₃ ++ (html₁ ++ html₂) := by
  obtain ⟨us, ts, hbefore, hevents, hboth⟩ := Document.exists_ofEvents_append_eq hroot events
  obtain ⟨s₁', hrender₁, htext₁⟩ := render_rowDocument h₁ hbefore ids s₁
  obtain ⟨s₂', hrender₂, htext₂⟩ := render_rowDocument h₂ hevents (rowWrites us ids).2 s₂
  obtain ⟨s₃', hrender₃, htext₃⟩ := render_rowDocument h₃ hboth ids s₃
  rw [rowWrites_joinTrees, rowWrites_append] at hrender₃ htext₃
  exact ⟨_, _, _, _, s₁', s₂', s₃', ⟨hrender₁, htext₁⟩, ⟨hrender₂, htext₂⟩, hrender₃, htext₃⟩

/-- Two texts meet, the second document has a heading of the first one and ends in an open table. -/
theorem render_ofEvents_append_seam :
    let before : List Event := (Tag.heading 2 none []).around [.text "a"] ++ [.text "x <"]
    let events : List Event := [.finish .list, .text "& y"] ++
      (Tag.heading 2 none []).around [.text "a"] ++
      [.start (.table [.right]), .start .tableHead, .start .tableCell, .text "h"]
    (before.foldl Builder.push .new).openNodes = [0] ∧
      ∃ ids₁ ids₂ s₁ s₂ s₃,
        render Stream.buffer noHook (.ofEvents before) {} "" = (none, ids₁, s₁) ∧
        s₁ = "<h2 id=\"a\">a</h2>\nx &lt;" ∧
        render Stream.buffer noHook (.ofEvents events) ids₁ "" = (none, ids₂, s₂) ∧
        s₂ = "&amp; y<h2 id=\"a-1\">a</h2>\n<table>\n<thead>\n<tr>" ++
          "<th style=\"text-align:right\">h</th></tr>\n</thead>\n<tbody>\n</tbody>\n</table>\n" ∧
        render Stream.buffer noHook (.ofEvents (before ++ events)) {} "" = (none, ids₂, s₃) ∧
        s₃ = s₁ ++ s₂ := by
  intro before events
  have hroot : (before.foldl Builder.push .new).openNodes = [0] := by decide +kernel
  obtain ⟨html₁, html₂, ids₁, ids₂, s₁, s₂, s₃, ⟨hrender₁, htext₁⟩, ⟨hrender₂, htext₂⟩,
      hrender₃, htext₃⟩ :=
    render_ofEvents_append keeps_buffer keeps_buffer keeps_buffer before events hroot {} "" "" ""
  have hfirst : (render Stream.buffer noHook (.ofEvents before) {} "").2 =
      (⟨[("a", 1)]⟩, "<h2 id=\"a\">a</h2>\nx &lt;") := by
    decide +kernel
  have hsecond : (render Stream.buffer noHook (.ofEvents events) ⟨[("a", 1)]⟩ "").2.2 =
      "&amp; y<h2 id=\"a-1\">a</h2>\n<table>\n<thead>\n<tr>" ++
        "<th style=\"text-align:right\">h</th></tr>\n</thead>\n<tbody>\n</tbody>\n</table>\n" := by
    decide +kernel
  rw [hrender₁, Prod.mk.injEq] at hfirst
  rw [← hfirst.1, hrender₂] at hsecond
  refine ⟨hroot, ids₁, ids₂, s₁, s₂, s₃, hrender₁, hfirst.2, hrender₂, hsecond, hrender₃, ?_⟩
  simp only [id_eq, String.empty_append] at htext₁ htext₂ htext₃
  rw [htext₁, htext₂, htext₃]

end Render

end MarkdownPreview
