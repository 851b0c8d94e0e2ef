import MarkdownPreview.Proofs.Document.Spine

/-!
Events on spines. Every event has an effect on a spine that is stated on its innermost open element
alone, and a builder does to its arena and its stack what the event does to the spine.
-/

namespace MarkdownPreview

theorem Tag.element_ne_tight (tag : Tag) : tag.element ≠ .paragraph true := by
  cases tag <;> simp [Tag.element]

/-- Text at the end of a list of trees: it goes into the last one if that is text as well. -/
def Tree.addText (s : String) (ts : List Tree) : List Tree :=
  match ts.getLast? with
  | some (.node (.text literal) us) => ts.dropLast ++ [.node (.text (literal ++ s)) us]
  | _ => ts ++ [leaf (.text s)]

namespace Spine
open Tree (leaf)

/-- Opens a tight paragraph if the innermost open element is a list item. -/
def openTight (sp : Spine) : Spine :=
  if sp.element = .item then inside sp (.paragraph true) [] else sp

def closeTight (sp : Spine) : Spine :=
  if sp.element = .paragraph true then sp.close else sp

def start (sp : Spine) (tag : Tag) : Spine :=
  inside (if tag.element.isBlock then sp.closeTight else sp.openTight) tag.element []

def finish (sp : Spine) (name : TagName) : Spine :=
  (if name = .paragraph then sp else sp.closeTight).close

def inlineLeaf (sp : Spine) (e : Element) : Spine := sp.openTight.add (leaf e)

def addText (sp : Spine) (s : String) : Spine := sp.withClosed (Tree.addText s sp.closed)

def text (sp : Spine) (s : String) : Spine :=
  match sp.element with
  | .codeBlock .. | .htmlBlock _ => sp.mapElement (Builder.appendLiteral s)
  | .metadata => sp
  | _ => sp.openTight.addText s

def blockHtml (sp : Spine) (s : String) : Spine :=
  match sp.element with
  | .htmlBlock _ => sp.mapElement (Builder.appendLiteral s)
  | _ => sp.inlineLeaf (.html s)

def push (sp : Spine) : Event → Spine
  | .start tag => sp.start tag
  | .finish name => sp.finish name
  | .text s => sp.text s
  | .code s => sp.inlineLeaf (.code s)
  | .html s => sp.blockHtml s
  | .inlineHtml s => sp.inlineLeaf (.html s)
  | .math display s => sp.inlineLeaf (.math display s)
  | .footnoteReference label => sp.inlineLeaf (.footnoteReference label)
  | .softBreak => sp.inlineLeaf .softBreak
  | .hardBreak => sp.inlineLeaf .hardBreak
  | .rule => sp.closeTight.add (leaf .rule)
  | .taskMarker checked => sp.text (Builder.taskText checked)

/-! ### Builders do what spines do -/

@[simp] theorem builder_append (sp : Spine) (e : Element) :
    sp.builder.append e = (sp.add (leaf e)).builder := by
  rw [Builder.append, top_builder, builder, builder, ← doc_add_leaf, add, openNodes_withClosed]

@[simp] theorem builder_opened (sp : Spine) (e : Element) :
    sp.builder.opened e = (inside sp e []).builder := by
  rw [Builder.opened, top_builder, builder, builder, ← doc_inside, size_doc]
  rfl

theorem builder_close (outer : Spine) (e : Element) (ts : List Tree) :
    (inside outer e ts).builder.close = (inside outer e ts).close.builder := by
  rw [close, builder, builder, doc_add_node]
  simp [Builder.close, openNodes, add]

@[simp] theorem builder_openTight (sp : Spine) :
    sp.builder.openTight = sp.openTight.builder := by
  simp only [Builder.openTight, openTight, topElement_builder, builder_opened]
  split <;> rfl

@[simp] theorem builder_closeTight (sp : Spine) :
    sp.builder.closeTight = sp.closeTight.builder := by
  simp only [Builder.closeTight, closeTight, topElement_builder]
  split
  · next h =>
    cases sp with
    | root ts => simp [element] at h
    | inside outer e ts => exact builder_close outer e ts
  · rfl

/-- The root stays open, whatever ends. -/
theorem builder_close_inner (sp : Spine) :
    (if 1 < sp.builder.openNodes.length then sp.builder.close else sp.builder) =
      sp.close.builder := by
  cases sp with
  | root ts => rfl
  | inside outer e ts =>
    obtain ⟨rest, h⟩ := openNodes_eq_cons outer
    have hlength : 1 < (inside outer e ts).builder.openNodes.length := by
      simp [builder, openNodes, h]
    rw [if_pos hlength, builder_close]

@[simp] theorem builder_start (sp : Spine) (tag : Tag) :
    sp.builder.start tag = (sp.start tag).builder := by
  simp only [Builder.start, start]
  split <;> simp

@[simp] theorem builder_finish (sp : Spine) (name : TagName) :
    sp.builder.finish name = (sp.finish name).builder := by
  simp only [Builder.finish, finish]
  split
  · exact builder_close_inner sp
  · rw [builder_closeTight]
    exact builder_close_inner sp.closeTight

@[simp] theorem builder_inlineLeaf (sp : Spine) (e : Element) :
    sp.builder.inlineLeaf e = (sp.inlineLeaf e).builder := by
  simp [Builder.inlineLeaf, inlineLeaf]

@[simp] theorem builder_modify_top (sp : Spine) (s : String) :
    { sp.builder with doc := sp.doc.modifyElement sp.top (Builder.appendLiteral s) } =
      (sp.mapElement (Builder.appendLiteral s)).builder := by
  have hopen : (sp.mapElement (Builder.appendLiteral s)).openNodes = sp.openNodes := by
    cases sp <;> rfl
  rw [builder, builder, doc_mapElement sp rfl, hopen]

theorem add_eq (sp : Spine) {init : List Tree} {t : Tree} (h : sp.closed = init ++ [t]) :
    (sp.withClosed init).add t = sp := by
  rw [add, closed_withClosed, withClosed_withClosed, ← h, withClosed_closed]

@[simp] theorem builder_inlineText (sp : Spine) (s : String) :
    sp.builder.inlineText s = (sp.openTight.addText s).builder := by
  simp only [Builder.inlineText, builder_openTight, top_builder, builder_append]
  generalize sp.openTight = sp
  rcases List.eq_nil_or_concat sp.closed with hnil | ⟨init, t, hlast⟩
  · have hnone : sp.builder.doc.lastChild? sp.top = none := lastChild?_of_closed_eq_nil hnil
    simp [hnone, addText, Tree.addText, hnil, add]
  · obtain ⟨e, ts⟩ := t
    rw [List.concat_eq_append] at hlast
    have hsp := add_eq sp hlast
    have hsome : sp.builder.doc.lastChild? sp.top = some (sp.withClosed init).size := by
      have h := lastChild?_add (sp.withClosed init) (.node e ts)
      rw [hsp, top_withClosed] at h
      exact h
    have helement : sp.builder.doc.element (sp.withClosed init).size = e := by
      have h := node_size_add (sp.withClosed init) e ts
      rw [hsp] at h
      exact h
    simp only [hsome, helement, addText, Tree.addText, hlast]
    cases e with
    | text literal =>
      have hmap := doc_add_map (sp.withClosed init) (Builder.appendLiteral s) (.text literal) ts
      rw [hsp] at hmap
      simp only [List.getLast?_append, List.getLast?_singleton, Option.some_or,
        List.dropLast_concat]
      rw [builder, builder, ← hmap]
      simp [add, Builder.appendLiteral]
    | _ => simp [add, hlast]

@[simp] theorem builder_text (sp : Spine) (s : String) :
    sp.builder.text s = (sp.text s).builder := by
  have hmodify := builder_modify_top sp s
  simp only [Builder.text, topElement_builder, text, top_builder, builder_inlineText]
  cases sp.element <;> first | rfl | exact hmodify

@[simp] theorem builder_blockHtml (sp : Spine) (s : String) :
    sp.builder.blockHtml s = (sp.blockHtml s).builder := by
  have hmodify := builder_modify_top sp s
  simp only [Builder.blockHtml, topElement_builder, blockHtml, top_builder, builder_inlineLeaf]
  cases sp.element <;> first | rfl | exact hmodify

/-- Each event does to a builder what it does to the spine. -/
theorem builder_push (sp : Spine) (event : Event) :
    sp.builder.push event = (sp.push event).builder := by
  cases event <;> simp [Builder.push, push]

/-- The spine after a list of events. -/
def ofEvents (events : List Event) : Spine := events.foldl push (root [])

theorem foldl_push_builder (sp : Spine) (events : List Event) :
    events.foldl Builder.push sp.builder = (events.foldl push sp).builder := by
  induction events generalizing sp with
  | nil => rfl
  | cons event events ih => rw [List.foldl_cons, List.foldl_cons, builder_push, ih]

theorem foldl_push_new (events : List Event) :
    events.foldl Builder.push .new = (ofEvents events).builder :=
  foldl_push_builder (root []) events

end Spine

end MarkdownPreview
