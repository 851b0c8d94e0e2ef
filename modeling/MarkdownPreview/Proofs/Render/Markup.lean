import MarkdownPreview.Proofs.Render.Items

/-!
The tags of the default markup. What is written when an element is entered opens its tags, and what
is written when it is left closes them. A table's body is the exception: it is opened when the head
is left, and closed with the table.
-/

namespace MarkdownPreview

def Element.isTable : Element → Bool
  | table _ => true
  | _ => false

namespace Render

open Html (Shifts Balanced Item)

/-- What is open after a node that was not open before it. -/
def namesAfter (e : Element) : List String := if e = .tableHead then ["tbody"] else []

/-- What is open after a node's children that was not open before them. -/
def namesAfterChildren (e : Element) : List String := if e.isTable then ["tbody"] else []

/-- The tags that entering an element opens. -/
def openedNames (doc : Document) (i : Nat) : Element → List String
  | .paragraph false => ["p"]
  | .heading level .. => [String.ofList (headingName level)]
  | .blockQuote => ["blockquote"]
  | .list none => ["ul"]
  | .list (some _) => ["ol"]
  | .item => ["li"]
  | .table _ => ["table"]
  | .tableHead => ["tr", "thead"]
  | .tableRow => ["tr"]
  | .tableCell => [cellTag doc i]
  | .emphasis => ["em"]
  | .strong => ["strong"]
  | .strikethrough => ["del"]
  | .link .. => ["a"]
  | .footnoteDefinition _ => ["div"]
  | _ => []

/-! ### Open elements -/

theorem cellTag_mem_contentNames (doc : Document) (i : Nat) :
    cellTag doc i ∈ Html.contentNames := by
  rcases cellTag_eq doc i with htag | htag <;> rw [htag] <;> decide

theorem openNames?_entering (doc : Document) (i : Nat) (assigned : Option String) {e : Element}
    (h : e.isContainer) :
    (items doc i true assigned e).foldlM Item.openNames? [] = some (openedNames doc i e) := by
  cases e with
  | paragraph tight => cases tight <;> rfl
  | list start => cases start <;> rfl
  | tableCell =>
    have hcell := Html.openNames?_opening (.inr (cellTag_mem_contentNames doc i))
    simp [items, openedNames, hcell]
  | heading level id classes =>
    have hheading := Html.openNames?_opening (.inl (isHeadingName_toList level))
    rw [openedNames, ofList_headingName]
    simp only [items, if_true, List.foldlM_cons, List.foldlM_nil, hheading]
    rfl
  | codeBlock _ _ | htmlBlock _ | footnoteReference _ | metadata | text _ | code _ | html _
  | math _ _ | softBreak | hardBreak | rule => cases h
  | _ => rfl

theorem openNames?_leaving (doc : Document) (i : Nat) (assigned : Option String) {e : Element}
    (h : e.isContainer) :
    (items doc i false assigned e).foldlM Item.openNames?
      (namesAfterChildren e ++ openedNames doc i e) = some (namesAfter e) := by
  cases e with
  | paragraph tight => cases tight <;> rfl
  | list start => cases start <;> rfl
  | tableCell => simp [items, openedNames, namesAfterChildren, namesAfter, Element.isTable]
  | heading level id classes =>
    rw [openedNames, ofList_headingName]
    simp [items, namesAfterChildren, namesAfter, Element.isTable]
  | codeBlock _ _ | htmlBlock _ | footnoteReference _ | metadata | text _ | code _ | html _
  | math _ _ | softBreak | hardBreak | rule => cases h
  | _ => rfl

theorem openNames?_leaf (doc : Document) (i : Nat) (assigned : Option String) {e : Element}
    (h : e.isContainer = false) :
    (items doc i true assigned e).foldlM Item.openNames? [] = some [] := by
  cases e with
  | math display literal => cases display <;> rfl
  | codeBlock _ _ | htmlBlock _ | footnoteReference _ | metadata | text _ | code _ | html _
  | softBreak | hardBreak | rule => rfl
  | _ => cases h

/-! ### Elements -/

/-- What is written opens and closes what its items do. -/
theorem shifts_markup (doc : Document) (i : Nat) (entering : Bool) (ids : HeadingIds)
    (h : (doc.element i).isHtml = false) {names names' : List String}
    (hopen : ∀ assigned, (items doc i entering assigned (doc.element i)).foldlM
      Item.openNames? names = some names') :
    Shifts (String.join (markup doc i entering ids).1) names names' := by
  rw [join_markup doc i entering ids h fun _ _ _ _ => rfl]
  exact Html.shifts_join_markup (fun item hitem => (known_items _ _ _ _ _ item hitem).wellFormed)
    (hopen _)

theorem isHtml_eq_false_of_isContainer {e : Element} (h : e.isContainer) : e.isHtml = false := by
  cases e with
  | html _ | htmlBlock _ => cases h
  | _ => rfl

/-- Entering a container opens its tags. -/
theorem shifts_markup_entering (doc : Document) (i : Nat) (ids : HeadingIds)
    (hcontainer : (doc.element i).isContainer) :
    Shifts (String.join (markup doc i true ids).1) [] (openedNames doc i (doc.element i)) :=
  shifts_markup doc i true ids (isHtml_eq_false_of_isContainer hcontainer) fun assigned =>
    openNames?_entering doc i assigned hcontainer

/-- Leaving a container closes its tags; the head of a table opens the body. -/
theorem shifts_markup_leaving (doc : Document) (i : Nat) (ids : HeadingIds)
    (hcontainer : (doc.element i).isContainer) :
    Shifts (String.join (markup doc i false ids).1)
      (namesAfterChildren (doc.element i) ++ openedNames doc i (doc.element i))
      (namesAfter (doc.element i)) :=
  shifts_markup doc i false ids (isHtml_eq_false_of_isContainer hcontainer) fun assigned =>
    openNames?_leaving doc i assigned hcontainer

/-- A leaf is balanced by itself. -/
theorem balanced_markup_leaf (doc : Document) (i : Nat) (ids : HeadingIds)
    (hleaf : (doc.element i).isContainer = false) (hhtml : (doc.element i).isHtml = false) :
    Balanced (String.join (markup doc i true ids).1) :=
  shifts_markup doc i true ids hhtml fun assigned => openNames?_leaf doc i assigned hleaf

end Render

end MarkdownPreview
