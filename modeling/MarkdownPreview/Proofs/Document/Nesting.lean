import MarkdownPreview.Proofs.Document.Normal

/-!
Documents of well nested events. By induction on the forest, the events of a tree add its normal
form to whatever is being built; so the builder's document is the arena of the normal form, and all
that was opened is closed.
-/

namespace MarkdownPreview

open Builder (appendLiteral)

namespace EventTree

theorem leafElement_isLeaf (event : Event) : (Tree.leaf (leafElement event)).TextIsLeaf := by
  intro s hs
  cases event <;> simp_all [Tree.leaf, Tree.element, leafElement]

theorem normal_of_verbatim {tag : Tag} (h : tag.element.isVerbatim = true)
    (content : List EventTree) :
    (element tag content).normal = .leaf (appendLiteral (literal content) tag.element) := by
  cases tag <;>
    first
    | exact absurd h Bool.false_ne_true
    | simp [normal, Tag.element, appendLiteral]

theorem normal_item (content : List EventTree) :
    (element .item content).normal = .node .item (Tree.wrapInline [] (normalAll content)) := by
  rw [normal]
  rfl

theorem normal_of_plain {tag : Tag} (hverbatim : tag.element.isVerbatim = false)
    (hitem : tag.element ≠ .item) (content : List EventTree) :
    (element tag content).normal = .node tag.element (Tree.mergeText (normalAll content)) := by
  cases tag <;> first
    | exact absurd hverbatim Bool.false_ne_true.symm
    | exact absurd rfl hitem
    | simp [normal, Tag.element]

theorem isBlock_normal_element (tag : Tag) (content : List EventTree) :
    (element tag content).normal.element.isBlock = tag.element.isBlock := by
  cases tag <;> simp [normal, Tag.element, Tree.element, Tree.leaf, Element.isBlock]

theorem normal_element_ne_text (tag : Tag) (content : List EventTree) (s : String) :
    (element tag content).normal.element ≠ .text s := by
  cases tag <;> simp [normal, Tag.element, Tree.element, Tree.leaf]

theorem textIsLeaf_normal (t : EventTree) : t.normal.TextIsLeaf := by
  cases t with
  | leaf event =>
    rw [normal]
    exact leafElement_isLeaf event
  | element tag content => exact fun s hs => absurd hs (normal_element_ne_text tag content s)

end EventTree

theorem appendLiteral_append (a b : String) (e : Element) :
    appendLiteral b (appendLiteral a e) = appendLiteral (a ++ b) e := by
  cases e <;> simp [appendLiteral, String.append_assoc]

theorem appendLiteral_empty (e : Element) : appendLiteral "" e = e := by
  cases e <;> simp [appendLiteral]

namespace Spine

open EventTree (Nested eventsAll normalAll)
open Tree (leaf mergeText tightParagraph wrapInline)

theorem text_of_not_verbatim {sp : Spine} (h : sp.element.isVerbatim = false) (s : String) :
    sp.text s = sp.openTight.addText s := by
  rw [text]
  split <;> simp_all [Element.isVerbatim]

theorem blockHtml_of_not_verbatim {sp : Spine} (h : sp.element.isVerbatim = false) (s : String) :
    sp.blockHtml s = sp.inlineLeaf (.html s) := by
  rw [blockHtml]
  split <;> simp_all [Element.isVerbatim]

theorem push_leaf {sp : Spine} (h : sp.element.isVerbatim = false) {event : Event}
    (hleaf : event.isLeaf = true) :
    sp.push event = sp.receive (leaf (EventTree.leafElement event)) := by
  cases event with
  | start tag => exact absurd hleaf Bool.false_ne_true
  | finish name => exact absurd hleaf Bool.false_ne_true
  | text s => exact text_of_not_verbatim h s
  | taskMarker checked => exact text_of_not_verbatim h _
  | html s => exact blockHtml_of_not_verbatim h s
  | _ => rfl

/-- Where an element begins. -/
def place (sp : Spine) (tag : Tag) : Spine :=
  if tag.element.isBlock then sp.closeTight else sp.openTight

theorem receive_element (sp : Spine) (tag : Tag) (content : List EventTree) :
    sp.receive (EventTree.element tag content).normal =
      (sp.place tag).add (EventTree.element tag content).normal := by
  have hblock := EventTree.isBlock_normal_element tag content
  have htext := EventTree.normal_element_ne_text tag content
  rw [receive, hblock, place]
  split
  · rfl
  · split
    · next s hs => exact absurd hs (htext s)
    · rfl

theorem finish_inside {e : Element} (h : e ≠ .paragraph true) (outer : Spine) (ts : List Tree)
    (name : TagName) : (inside outer e ts).finish name = outer.add (.node e ts) := by
  have hopen : (inside outer e ts).closeTight = inside outer e ts := if_neg h
  rw [finish, hopen, ite_self, close]

/-! ### Verbatim elements -/

/-- What a verbatim element admits goes into its literal. -/
theorem foldl_push_admitted {tag : Tag} (hverbatim : tag.element.isVerbatim = true) {t : EventTree}
    (h : Nested (some tag) t) (outer : Spine) (s : String) :
    t.events.foldl push (inside outer (appendLiteral s tag.element) []) =
      inside outer (appendLiteral (s ++ t.payload) tag.element) [] := by
  cases h with
  | @leaf _ event hleaf hadmits =>
    -- an admitted event appends its payload, and metadata has no literal to append to
    rw [← appendLiteral_append]
    cases tag <;> first
      | exact absurd hverbatim Bool.false_ne_true
      | (cases event <;> first | exact absurd hadmits Bool.false_ne_true | rfl)
  | element hadmits =>
    cases tag <;> first
      | exact absurd hverbatim Bool.false_ne_true
      | exact absurd hadmits Bool.false_ne_true

theorem foldl_push_verbatim {tag : Tag} (hverbatim : tag.element.isVerbatim = true)
    {content : List EventTree} (h : ∀ t ∈ content, Nested (some tag) t) (outer : Spine)
    (s : String) :
    (eventsAll content).foldl push (inside outer (appendLiteral s tag.element) []) =
      inside outer (appendLiteral (s ++ EventTree.literal content) tag.element) [] := by
  induction content generalizing s with
  | nil => simp [EventTree.literal]
  | cons t ts ih =>
    rw [EventTree.eventsAll_cons, List.foldl_append,
      foldl_push_admitted hverbatim (h t List.mem_cons_self),
      ih fun u hu => h u (List.mem_cons_of_mem t hu)]
    simp [EventTree.literal, String.append_assoc]

/-! ### Content of elements -/

/-- What is shown of every tree of a content before its element is: its events add its normal form
to any spine whose innermost element is not verbatim. -/
def Adds (t : EventTree) : Prop :=
  ∀ sp : Spine, sp.element.isVerbatim = false → t.events.foldl push sp = sp.receive t.normal

/-- The content of a plain element. -/
theorem foldl_push_plain (sp : Spine) (hplain : Plain sp.element)
    (hverbatim : sp.element.isVerbatim = false) {content : List EventTree}
    (h : ∀ t ∈ content, Adds t) (done : List Tree) :
    (eventsAll content).foldl push (sp.withClosed (mergeText done)) =
      sp.withClosed (mergeText (done ++ normalAll content)) := by
  induction content generalizing done with
  | nil => simp [normalAll]
  | cons t ts ih =>
    have ht := h t List.mem_cons_self (sp.withClosed (mergeText done)) (by simpa using hverbatim)
    rw [EventTree.eventsAll_cons, List.foldl_append, ht,
      receive_plain hplain done t.textIsLeaf_normal, ih fun u hu => h u (List.mem_cons_of_mem t hu),
      EventTree.normalAll_cons, List.append_assoc, List.singleton_append]

theorem isVerbatim_item (outer : Spine) (done run : List Tree) :
    (item outer done run).element.isVerbatim = false := by
  cases run <;> rfl

/-- The content of a list item. Its run of inline content is still open at the end. -/
theorem closeTight_foldl_push_item {content : List EventTree} (h : ∀ t ∈ content, Adds t)
    (outer : Spine) (done run : List Tree) :
    ((eventsAll content).foldl push (item outer done run)).closeTight =
      inside outer .item (done ++ wrapInline run (normalAll content)) := by
  induction content generalizing done run with
  | nil => simp [normalAll, wrapInline, closeTight_item]
  | cons t ts ih =>
    have ht := h t List.mem_cons_self _ (isVerbatim_item outer done run)
    have hts := ih fun u hu => h u (List.mem_cons_of_mem t hu)
    rw [EventTree.eventsAll_cons, List.foldl_append, ht, EventTree.normalAll_cons, wrapInline]
    by_cases hblock : t.normal.element.isBlock = true
    · rw [receive_item_block outer done run hblock, hts, if_pos hblock]
      simp
    · have hinline : t.normal.element.isBlock = false := by simpa using hblock
      rw [receive_item_inline outer done run t.textIsLeaf_normal hinline, hts, if_neg hblock]

/-- The content of any element, and its end. -/
theorem finish_content {tag : Tag} {content : List EventTree}
    (hnested : ∀ t ∈ content, Nested (some tag) t)
    (hadds : ∀ t ∈ content, Adds t) (outer : Spine) :
    ((eventsAll content).foldl push (inside outer tag.element [])).finish tag.name =
      outer.add (EventTree.element tag content).normal := by
  have hne := tag.element_ne_tight
  -- verbatim elements get a literal, items get paragraphs, all others their content as it is
  by_cases hverbatim : tag.element.isVerbatim = true
  · have hcontent := foldl_push_verbatim hverbatim hnested outer ""
    rw [appendLiteral_empty, String.empty_append] at hcontent
    have hne' : appendLiteral (EventTree.literal content) tag.element ≠ .paragraph true := by
      cases tag <;> simp [Tag.element, appendLiteral]
    rw [hcontent, finish_inside hne', EventTree.normal_of_verbatim hverbatim]
    rfl
  · have hverbatim : tag.element.isVerbatim = false := by simpa using hverbatim
    by_cases hitem : tag.element = .item
    · obtain rfl : tag = .item := by
        cases tag <;> first | rfl | simp [Tag.element] at hitem
      have hcontent := closeTight_foldl_push_item hadds outer [] []
      rw [EventTree.normal_item]
      exact congrArg close hcontent
    · have hcontent := foldl_push_plain (inside outer tag.element []) ⟨hitem, hne⟩ hverbatim
        hadds []
      rw [EventTree.normal_of_plain hverbatim hitem]
      refine (congrArg (fun sp : Spine => sp.finish tag.name) hcontent).trans ?_
      exact finish_inside hne outer _ _

/-- The events of a tree add its normal form to what is being built. -/
theorem adds_of_nested {parent : Option Tag} {t : EventTree} (h : Nested parent t) : Adds t := by
  induction h with
  | leaf hleaf _ =>
    intro sp hsp
    exact push_leaf hsp hleaf
  | @element parent tag content _ hcontent ih =>
    intro sp _
    rw [EventTree.events_element, List.foldl_cons, List.foldl_append, List.foldl_cons,
      List.foldl_nil, receive_element]
    exact finish_content hcontent ih (sp.place tag)

theorem ofEvents_eventsAll {forest : List EventTree} (h : ∀ t ∈ forest, Nested none t) :
    ofEvents (eventsAll forest) = root (mergeText (normalAll forest)) := by
  have hadds : ∀ t ∈ forest, Adds t := fun t ht => adds_of_nested (h t ht)
  exact foldl_push_plain (root []) ⟨by simp [element], by simp [element]⟩ rfl hadds []

end Spine

/-- Well nested events spell a forest, and for the forest that they spell, the builder's document is
the arena of its normal form and nothing but the root is open. -/
theorem Builder.foldl_push_of_wellNested (events : List Event) (h : WellNested events) :
    (∃ forest, EventTree.Spells forest events) ∧
      ∀ forest, EventTree.Spells forest events →
        events.foldl Builder.push .new =
          ⟨Document.ofTree (EventTree.document forest), [0]⟩ := by
  refine ⟨EventTree.wellNested_iff.mp h, ?_⟩
  rintro forest ⟨hnested, rfl⟩
  rw [Spine.foldl_push_new, Spine.ofEvents_eventsAll hnested, Spine.builder,
    Spine.doc_eq_ofTree, Spine.tree_root]
  rfl

/-- An item with a task, emphasis and a list in it, and a code block. -/
theorem Builder.foldl_push_task_list :
    WellNested
      [.start (.list none), .start .item, .taskMarker true, .text " a", .start .emphasis,
        .text "b", .finish .emphasis, .start (.list none), .start .item, .text "c", .finish .item,
        .finish .list, .text "d", .finish .item, .finish .list, .start (.fencedCode "x"),
        .text "p", .text "q", .finish .codeBlock] ∧
    [.start (.list none), .start .item, .taskMarker true, .text " a", .start .emphasis,
        .text "b", .finish .emphasis, .start (.list none), .start .item, .text "c", .finish .item,
        .finish .list, .text "d", .finish .item, .finish .list, .start (.fencedCode "x"),
        .text "p", .text "q", .finish .codeBlock].foldl Builder.push .new =
      ⟨Document.ofTree (.node .document
        [.node (.list none)
          [.node .item
            [.node (.paragraph true)
              [.leaf (.text "[x] a"), .node .emphasis [.leaf (.text "b")]],
             .node (.list none) [.node .item [.node (.paragraph true) [.leaf (.text "c")]]],
             .node (.paragraph true) [.leaf (.text "d")]]],
         .leaf (.codeBlock (some "x") "pq")]), [0]⟩ := by
  refine ⟨by decide, (Builder.foldl_push_of_wellNested _ (by decide)).2
    [.element (.list none)
      [.element .item
        [.leaf (.taskMarker true), .leaf (.text " a"), .element .emphasis [.leaf (.text "b")],
         .element (.list none) [.element .item [.leaf (.text "c")]], .leaf (.text "d")]],
     .element (.fencedCode "x") [.leaf (.text "p"), .leaf (.text "q")]] ⟨?_, rfl⟩⟩
  repeat' first
    | exact List.forall_mem_nil _
    | exact .leaf rfl rfl
    | refine .element rfl ?_
    | refine List.forall_mem_cons.mpr ⟨?_, ?_⟩

end MarkdownPreview
