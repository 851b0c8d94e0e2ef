import MarkdownPreview.Proofs.Document.Nesting
import MarkdownPreview.Proofs.Document.Shape

/-!
The content of documents. Where verbatim elements get nothing but text, the literals of a document
in preorder are what its events bring, in their order: an event appends to the last literal of the
preorder, or adds a node after it.
-/

namespace MarkdownPreview

open Builder (appendLiteral)

/-- The literal of an element, if it has one. -/
def Element.content : Element → String
  | text s | codeBlock _ s | htmlBlock s | code s | html s | math _ s => s
  | _ => ""

/-- Whether an event may come while the element is the innermost open one: in a verbatim element
its end and text, and in a block of HTML also HTML. -/
def Element.admits : Element → Event → Bool
  | _, .finish _ => true
  | codeBlock .., event | metadata, event => event.isText
  | htmlBlock _, event => event.isText || event.isHtml
  | _, _ => true

/-- The content that an event brings to the innermost open element. Text in metadata is dropped. -/
def Event.payload (innermost : Element) : Event → String
  | .text s => if innermost = .metadata then "" else s
  | .taskMarker checked => Builder.taskText checked
  | .code s | .html s | .inlineHtml s | .math _ s => s
  | _ => ""

namespace Builder

/-- Whether each event may come where it does. -/
def admitsAll (b : Builder) : List Event → Bool
  | [] => true
  | event :: rest => b.topElement.admits event && (b.push event).admitsAll rest

/-- What the events bring, in their order. -/
def payloads (b : Builder) : List Event → List String
  | [] => []
  | event :: rest => event.payload b.topElement :: (b.push event).payloads rest

end Builder

/-! ### Elements in preorder -/

namespace Tree

mutual
/-- The elements of a tree in preorder. -/
def elements : Tree → List Element
  | node e ts => e :: elementsAll ts

def elementsAll : List Tree → List Element
  | [] => []
  | t :: ts => t.elements ++ elementsAll ts
end

@[simp] theorem elements_node (e : Element) (ts : List Tree) :
    (node e ts).elements = e :: elementsAll ts := by
  rw [elements]

@[simp] theorem elementsAll_nil : elementsAll [] = [] := by
  rw [elementsAll]

@[simp] theorem elementsAll_cons (t : Tree) (ts : List Tree) :
    elementsAll (t :: ts) = t.elements ++ elementsAll ts := by
  rw [elementsAll]

@[simp] theorem elementsAll_append (ts us : List Tree) :
    elementsAll (ts ++ us) = elementsAll ts ++ elementsAll us := by
  induction ts with
  | nil => simp
  | cons t ts ih => simp [ih]

mutual
theorem map_element_nodes (parent : Option Nat) (i : Nat) (t : Tree) :
    (t.nodes parent i).map Node.element = t.elements := by
  cases t with
  | node e ts => rw [nodes_node, List.map_cons, map_element_nodesAll, elements_node]

theorem map_element_nodesAll (parent i : Nat) (ts : List Tree) :
    (nodesAll parent i ts).map Node.element = elementsAll ts := by
  cases ts with
  | nil => simp
  | cons t ts =>
    rw [nodesAll, List.map_append, map_element_nodes, map_element_nodesAll, elementsAll_cons]
end

end Tree

/-- The literals of elements, one after the other. -/
def contents (es : List Element) : String := String.join (es.map Element.content)

@[simp] theorem contents_append (es es' : List Element) :
    contents (es ++ es') = contents es ++ contents es' := by
  rw [contents, List.map_append, String.join_append]
  rfl

@[simp] theorem contents_cons (e : Element) (es : List Element) :
    contents (e :: es) = e.content ++ contents es := by
  rw [contents, List.map_cons, String.join_cons]
  rfl

@[simp] theorem contents_nil : contents [] = "" := rfl

@[simp] theorem Tag.content_element (tag : Tag) : tag.element.content = "" := by
  cases tag <;> rfl

namespace Spine

open Tree (leaf elementsAll)

/-- The elements of a spine in preorder. -/
def elements : Spine → List Element
  | root ts => .document :: elementsAll ts
  | inside outer e ts => outer.elements ++ e :: elementsAll ts

theorem map_element_nodes (sp : Spine) (more : List Nat) :
    (sp.nodes more).map Node.element = sp.elements := by
  induction sp generalizing more with
  | root ts => rw [nodes, List.map_cons, Tree.map_element_nodesAll]; rfl
  | inside outer e ts ih =>
    rw [nodes, List.map_append, ih, List.map_cons, Tree.map_element_nodesAll]
    rfl

/-- A child that is added comes last. -/
@[simp] theorem elements_add (sp : Spine) (t : Tree) :
    (sp.add t).elements = sp.elements ++ t.elements := by
  cases sp <;> simp [add, withClosed, closed, elements]

theorem elements_inside (sp : Spine) (e : Element) :
    (inside sp e []).elements = sp.elements ++ [e] := by
  rw [elements, Tree.elementsAll_nil]

@[simp] theorem elements_close (sp : Spine) : sp.close.elements = sp.elements := by
  cases sp with
  | root ts => rfl
  | inside outer e ts => rw [close, elements_add, Tree.elements_node, elements]

@[simp] theorem elements_closeTight (sp : Spine) : sp.closeTight.elements = sp.elements := by
  rw [closeTight]
  split
  · exact sp.elements_close
  · rfl

@[simp] theorem contents_openTight (sp : Spine) :
    contents sp.openTight.elements = contents sp.elements := by
  rw [openTight]
  split
  · rw [elements_inside, contents_append]
    exact String.append_empty
  · rfl

@[simp] theorem elements_finish (sp : Spine) (name : TagName) :
    (sp.finish name).elements = sp.elements := by
  rw [finish, elements_close]
  split
  · rfl
  · exact sp.elements_closeTight

@[simp] theorem contents_start (sp : Spine) (tag : Tag) :
    contents (sp.start tag).elements = contents sp.elements := by
  rw [start, elements_inside]
  split <;> simp

@[simp] theorem contents_inlineLeaf (sp : Spine) (e : Element) :
    contents (sp.inlineLeaf e).elements = contents sp.elements ++ e.content := by
  simp [inlineLeaf, leaf]

/-- Text is appended to the last literal, since nothing stands in a text. -/
theorem contents_inlineText {sp : Spine} (h : sp.Ready) (s : String) :
    contents (sp.openTight.addText s).elements = contents sp.elements ++ s := by
  by_cases hitem : sp.element = .item
  · rw [openTight_addText_of_item hitem, elements_add, contents_append, contents_openTight]
    simp [leaf, Element.content]
  · rw [openTight, if_neg hitem, addText]
    rcases Tree.addText_cases s sp.closed with ⟨init, a, us, hclosed, hadd⟩ | ⟨-, hadd⟩
    · obtain ⟨-, ⟨hus, -⟩⟩ := h.shaped_last hclosed
      -- nothing comes after the text's literal in preorder
      have hnil : us = [] := List.map_eq_nil_iff.mp (hus.eq_nil rfl)
      rw [hadd, withClosed_concat, ← congrArg elements (add_eq sp hclosed), hnil]
      simp [Element.content, String.append_assoc]
    · rw [hadd]
      change contents (sp.add (leaf (.text s))).elements = _
      simp [leaf, Element.content]

/-! ### Verbatim elements have no children -/

/-- No open element is verbatim. -/
def OpenPlain : Spine → Prop
  | root _ => True
  | inside outer e _ => e.isVerbatim = false ∧ outer.OpenPlain

/-- No open element is verbatim but perhaps the innermost one, which has no children then. -/
inductive Tidy : Spine → Prop
  | plain {sp : Spine} : sp.OpenPlain → Tidy sp
  | verbatim {outer : Spine} {e : Element} :
      outer.OpenPlain → e.isVerbatim = true → Tidy (inside outer e [])

section

variable {sp : Spine}

@[simp] theorem openPlain_withClosed (sp : Spine) (ts : List Tree) :
    (sp.withClosed ts).OpenPlain ↔ sp.OpenPlain := by
  cases sp <;> rfl

@[simp] theorem openPlain_add (sp : Spine) (t : Tree) : (sp.add t).OpenPlain ↔ sp.OpenPlain := by
  rw [add, openPlain_withClosed]

theorem OpenPlain.isVerbatim_eq_false (h : sp.OpenPlain) : sp.element.isVerbatim = false := by
  cases sp with
  | root ts => rfl
  | inside outer e ts => exact h.1

theorem OpenPlain.close (h : sp.OpenPlain) : sp.close.OpenPlain := by
  cases sp with
  | root ts => exact h
  | inside outer e ts => exact (openPlain_add _ _).mpr h.2

theorem OpenPlain.closeTight (h : sp.OpenPlain) : sp.closeTight.OpenPlain := by
  rw [Spine.closeTight]
  split
  · exact h.close
  · exact h

theorem OpenPlain.openTight (h : sp.OpenPlain) : sp.openTight.OpenPlain := by
  rw [Spine.openTight]
  split
  · exact ⟨rfl, h⟩
  · exact h

theorem OpenPlain.inlineLeaf (h : sp.OpenPlain) (e : Element) : (sp.inlineLeaf e).OpenPlain :=
  (openPlain_add _ _).mpr h.openTight

theorem OpenPlain.finish (h : sp.OpenPlain) (name : TagName) : (sp.finish name).OpenPlain := by
  rw [Spine.finish]
  split
  · exact h.close
  · exact h.closeTight.close

theorem OpenPlain.start (h : sp.OpenPlain) (tag : Tag) : (sp.start tag).Tidy := by
  have hplace : (if tag.element.isBlock then sp.closeTight else sp.openTight).OpenPlain := by
    split
    · exact h.closeTight
    · exact h.openTight
  cases hverbatim : tag.element.isVerbatim with
  | true => exact .verbatim hplace hverbatim
  | false => exact .plain ⟨hverbatim, hplace⟩

theorem OpenPlain.text (h : sp.OpenPlain) (s : String) : (sp.text s).OpenPlain := by
  rw [text_of_not_verbatim h.isVerbatim_eq_false, addText, openPlain_withClosed]
  exact h.openTight

theorem OpenPlain.blockHtml (h : sp.OpenPlain) (s : String) : (sp.blockHtml s).OpenPlain := by
  rw [blockHtml_of_not_verbatim h.isVerbatim_eq_false]
  exact h.inlineLeaf _

/-- Where nothing verbatim is open, every event keeps the spine tidy and brings its payload. -/
theorem OpenPlain.push (h : sp.OpenPlain) (hready : sp.Ready) (event : Event) :
    (sp.push event).Tidy ∧
      contents (sp.push event).elements = contents sp.elements ++ event.payload sp.element := by
  have hverbatim := h.isVerbatim_eq_false
  have htext (s : String) : contents (sp.text s).elements = contents sp.elements ++ s := by
    rw [text_of_not_verbatim hverbatim, contents_inlineText hready]
  cases event with
  | start tag =>
    exact ⟨h.start tag, by rw [Spine.push, contents_start]; exact String.append_empty.symm⟩
  | finish name =>
    exact ⟨.plain (h.finish name),
      by rw [Spine.push, elements_finish]; exact String.append_empty.symm⟩
  | text s =>
    have hne : sp.element ≠ .metadata := by
      rintro he
      rw [he] at hverbatim
      cases hverbatim
    exact ⟨.plain (h.text s), by rw [Spine.push, htext, Event.payload, if_neg hne]⟩
  | taskMarker checked => exact ⟨.plain (h.text _), htext _⟩
  | html s =>
    refine ⟨.plain (h.blockHtml s), ?_⟩
    rw [Spine.push, blockHtml_of_not_verbatim hverbatim, contents_inlineLeaf]
    rfl
  | rule =>
    refine ⟨.plain ((openPlain_add _ _).mpr h.closeTight), ?_⟩
    simp [Spine.push, leaf, Element.content, Event.payload]
  | _ => exact ⟨.plain (h.inlineLeaf _), contents_inlineLeaf _ _⟩

/-- What a verbatim element admits goes to the end of its literal, or ends it. -/
theorem push_verbatim {outer : Spine} {e : Element} (h : outer.OpenPlain)
    (hverbatim : e.isVerbatim = true) {event : Event} (hadmits : e.admits event = true) :
    ((inside outer e []).push event).Tidy ∧
      contents ((inside outer e []).push event).elements =
        contents (inside outer e []).elements ++ event.payload e := by
  have hliteral (e' : Element) (s : String) (hverbatim' : e'.isVerbatim = true)
      (hcontent : e'.content = e.content ++ s) :
      (inside outer e' []).Tidy ∧
        contents (inside outer e' []).elements = contents (inside outer e []).elements ++ s := by
    refine ⟨.verbatim h hverbatim', ?_⟩
    simp [elements_inside, hcontent, String.append_assoc]
  cases event with
  | finish name =>
    -- no tight paragraph is open, so the end is that of the element itself
    have hne : e ≠ .paragraph true := by
      rintro rfl
      cases hverbatim
    rw [push, elements_finish, finish_inside hne]
    exact ⟨.plain ((openPlain_add _ _).mpr h), String.append_empty.symm⟩
  | text s =>
    cases e with
    | codeBlock info literal => exact hliteral (.codeBlock info (literal ++ s)) s rfl rfl
    | htmlBlock literal => exact hliteral (.htmlBlock (literal ++ s)) s rfl rfl
    | metadata => exact ⟨.verbatim h rfl, String.append_empty.symm⟩
    | _ => cases hverbatim
  | html s =>
    cases e with
    | htmlBlock literal => exact hliteral (.htmlBlock (literal ++ s)) s rfl rfl
    | codeBlock | metadata => cases hadmits
    | _ => cases hverbatim
  | _ =>
    cases e <;> first
      | exact absurd hverbatim Bool.false_ne_true
      | exact absurd hadmits Bool.false_ne_true

theorem tidy_root : (root []).Tidy := by
  refine .plain ?_
  trivial

theorem Tidy.push (h : sp.Tidy) (hready : sp.Ready) {event : Event}
    (hadmits : sp.element.admits event = true) :
    (sp.push event).Tidy ∧
      contents (sp.push event).elements = contents sp.elements ++ event.payload sp.element := by
  cases h with
  | plain hplain => exact hplain.push hready event
  | verbatim hplain hverbatim => exact push_verbatim hplain hverbatim hadmits

/-- A run of admitted events brings their payloads, in order. -/
theorem contents_foldl_push {events : List Event} (h : sp.Tidy) (hready : sp.Ready)
    (hadmits : sp.builder.admitsAll events = true) :
    contents (events.foldl Spine.push sp).elements =
      contents sp.elements ++ String.join (sp.builder.payloads events) := by
  induction events generalizing sp with
  | nil => exact String.append_empty.symm
  | cons event rest ih =>
    rw [Builder.admitsAll, Bool.and_eq_true, topElement_builder, builder_push] at hadmits
    obtain ⟨htidy, hcontents⟩ := h.push hready hadmits.1
    rw [List.foldl_cons, ih htidy (hready.push event) hadmits.2, hcontents, Builder.payloads,
      String.join_cons, topElement_builder, builder_push, String.append_assoc]

end

end Spine

/-- The elements at the positions of an arena are those of its nodes. -/
theorem Document.map_element_range (ns : List Node) :
    (List.range (Document.mk ns.toArray).size).map (Document.mk ns.toArray).element =
      ns.map Node.element := by
  refine List.ext_getElem (by simp [size]) fun i h _ => ?_
  have hi : i < ns.length := by simpa [size] using h
  simp [element, node, hi]

/-- The literals of a document, as the preorder walk from the root comes to them, are what the
events bring, if verbatim elements get nothing but text. -/
theorem Document.contents_ofEvents (events : List Event)
    (h : Builder.new.admitsAll events = true) :
    (ofEvents events).Preorder [0] (List.range (ofEvents events).size) ∧
      String.join ((List.range (ofEvents events).size).map
          fun i => ((ofEvents events).element i).content) =
        String.join (Builder.new.payloads events) := by
  refine ⟨preorder_ofEvents events, ?_⟩
  have hcontents := Spine.contents_foldl_push Spine.tidy_root Spine.ready_root h
  have helements : (List.range (ofEvents events).size).map (ofEvents events).element =
      (Spine.ofEvents events).elements := by
    rw [ofEvents_eq_doc, Spine.doc, map_element_range, Spine.map_element_nodes]
  have hmap := congrArg (List.map Element.content) helements
  rw [List.map_map] at hmap
  calc
    _ = contents (Spine.ofEvents events).elements := congrArg String.join hmap
    _ = contents (Spine.root []).elements ++ String.join (Builder.new.payloads events) := hcontents
    _ = _ := String.empty_append

/-- Badly nested events: an item that a paragraph's end leaves, text in metadata, and more ends than
starts. -/
theorem Document.contents_ofEvents_unbalanced :
    let events : List Event :=
      [.start .item, .taskMarker true, .text " a", .finish .paragraph, .text "b", .start .metadata,
        .text "x", .finish .list, .start (.fencedCode "r"), .text "c", .text "d",
        .finish .codeBlock, .finish .list, .finish .item, .finish .item, .code "e", .text "f",
        .text "g", .start .htmlBlock, .html "<p>", .text "h"]
    Builder.new.admitsAll events = true ∧
      (ofEvents events).Preorder [0] (List.range (ofEvents events).size) ∧
      String.join ((List.range (ofEvents events).size).map
        fun i => ((ofEvents events).element i).content) = "[x] abcdefg<p>h" := by
  intro events
  have hadmits : Builder.new.admitsAll events = true := by decide +kernel
  have hpayloads : String.join (Builder.new.payloads events) = "[x] abcdefg<p>h" := by
    decide +kernel
  obtain ⟨horder, hcontents⟩ := contents_ofEvents events hadmits
  exact ⟨hadmits, horder, hcontents.trans hpayloads⟩

end MarkdownPreview
