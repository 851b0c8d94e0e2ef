import MarkdownPreview.Proofs.Html.Items
import MarkdownPreview.Proofs.Html.References
import MarkdownPreview.Proofs.Text.Pieces

/-!
Items read back. A reader cuts out every stretch from a `<` to the next `>` and takes it for a tag;
it needs no more than that to find the texts and the tags that were written, with the attributes and
their values.
-/

namespace MarkdownPreview.Html

inductive Part
  | char (c : Char)
  | tag (inside : List Char)
  deriving DecidableEq, Repr

/-- The parts of markup, of which a reader inside a tag has read something already. A `<` without a
`>` after it is text. -/
def parts : Option (List Char) → List Char → List Part
  | none, [] => []
  | some read, [] => ('<' :: read).map .char
  | none, c :: cs => if c = '<' then parts (some []) cs else .char c :: parts none cs
  | some read, c :: cs =>
    if c = '>' then .tag read :: parts none cs else parts (some (read ++ [c])) cs

def Part.char? : Part → Option Char
  | char c => some c
  | tag _ => none

def Part.inside? : Part → Option (List Char)
  | char _ => none
  | tag inside => some inside

/-- Markup without the stretches from a `<` to the next `>`. -/
def outsideTags (html : String) : String :=
  String.ofList ((parts none html.toList).filterMap Part.char?)

/-- What is seen of markup: what is outside of tags, with the character references read. -/
def visibleText (html : String) : String := decode (outsideTags html)

/-- Attributes from what the quotes cut them into: keys and values take turns. -/
def readAttributes? : List (List Char) → Option (List Attribute)
  | [[]] => some []
  | (' ' :: key) :: value :: rest =>
    if key.getLast? = some '=' then
      (readAttributes? rest).map
        (⟨String.ofList key.dropLast, unescape (String.ofList value)⟩ :: ·)
    else none
  | _ => none

def MarkupTag.read? : List Char → Option MarkupTag
  | '/' :: name => some (.closing (String.ofList name))
  | inside =>
    (readAttributes? (Text.splitAt '"' (inside.dropWhile (· != ' ')))).map
      (.opening (String.ofList (inside.takeWhile (· != ' '))))

/-- The tags that are cut out of markup; nothing for one that cannot be read. -/
def tagsIn (html : String) : List (Option MarkupTag) :=
  ((parts none html.toList).filterMap Part.inside?).map MarkupTag.read?

/-! ### Cutting out tags -/

theorem parts_append_of_not_mem {front : List Char} (h : '<' ∉ front) (cs : List Char) :
    parts none (front ++ cs) = front.map .char ++ parts none cs := by
  induction front with
  | nil => rfl
  | cons c front ih =>
    simp only [List.mem_cons, not_or] at h
    rw [List.cons_append, parts, if_neg (Ne.symm h.1), ih h.2, List.map_cons, List.cons_append]

theorem parts_some_append {inside : List Char} (h : '>' ∉ inside) (read cs : List Char) :
    parts (some read) (inside ++ '>' :: cs) = .tag (read ++ inside) :: parts none cs := by
  induction inside generalizing read with
  | nil => rw [List.nil_append, parts, if_pos rfl, List.append_nil]
  | cons c inside ih =>
    simp only [List.mem_cons, not_or] at h
    rw [List.cons_append, parts, if_neg (Ne.symm h.1), ih h.2, List.append_assoc,
      List.singleton_append]

def Item.parts : Item → List Part
  | text content => (escape content).toList.map .char
  | tag t => [.tag t.inside.toList]

theorem parts_markup_append {item : Item} (h : item.WellFormed) (cs : List Char) :
    parts none (item.markup.toList ++ cs) = item.parts ++ parts none cs := by
  cases item with
  | text content => exact parts_append_of_not_mem (not_mem_escape (by decide) content) cs
  | tag t =>
    have hinside := parts_some_append (not_mem_inside h (by decide)) [] cs
    simpa [Item.markup, parts, Item.parts] using hinside

theorem parts_join_markup {items : List Item} (h : ∀ item ∈ items, item.WellFormed) :
    parts none (String.join (items.map Item.markup)).toList = items.flatMap Item.parts := by
  induction items with
  | nil => rfl
  | cons item items ih =>
    obtain ⟨hitem, hitems⟩ := List.forall_mem_cons.mp h
    rw [List.map_cons, String.join_cons, String.toList_append, parts_markup_append hitem,
      ih hitems, List.flatMap_cons]

/-! ### Reading texts -/

/-- What is outside of tags, as a reader of these references sees it. -/
def seenBy (rules : EscapeRules) (cs : List Char) : List Char :=
  unescapeChars rules 0 ((parts none cs).filterMap Part.char?)

/-- Markup is seen as a text, and what comes after it is seen after that. -/
def SeenAs (rules : EscapeRules) (html text : String) : Prop :=
  ∀ rest, seenBy rules (html.toList ++ rest) = text.toList ++ seenBy rules rest

section

variable {rules written : EscapeRules} {html html' text text' : String}

theorem SeenAs.unescapeWith_outsideTags (h : SeenAs rules html text) :
    unescapeWith rules (outsideTags html) = text := by
  have hall := h []
  rw [List.append_nil] at hall
  rw [unescapeWith, outsideTags, String.toList_ofList]
  change String.ofList (seenBy rules html.toList) = text
  rw [hall]
  simp [seenBy, parts, unescapeChars]

theorem SeenAs.visibleText_eq (h : SeenAs references html text) : visibleText html = text :=
  h.unescapeWith_outsideTags

theorem SeenAs.empty : SeenAs rules "" "" := fun _ => rfl

theorem SeenAs.append (h : SeenAs rules html text) (h' : SeenAs rules html' text') :
    SeenAs rules (html ++ html') (text ++ text') := by
  intro rest
  rw [String.toList_append, List.append_assoc, h, h', String.toList_append, List.append_assoc]

/-- Nothing is seen of a tag. -/
theorem SeenAs.tag {inside : String} (h : '>' ∉ inside.toList) :
    SeenAs rules ("<" ++ inside ++ ">") "" := by
  intro rest
  have hparts := parts_some_append h [] rest
  simp [seenBy, parts, hparts, List.filterMap_cons, Part.char?]

/-- Escaped text is seen as what was escaped. -/
theorem SeenAs.escapeWith (h : Undoes rules written) (hguards : Guards written) (s : String) :
    SeenAs rules (escapeWith written s) s := by
  intro rest
  have hplain : '<' ∉ (Html.escapeWith written s).toList :=
    hguards.not_mem_escapeWith (by decide) s
  rw [seenBy, parts_append_of_not_mem hplain, List.filterMap_append, List.filterMap_map,
    toList_escapeWith]
  change unescapeChars rules 0 (List.filterMap some (escapeChars written s.toList) ++ _) = _
  rw [List.filterMap_some, unescapeChars_escapeChars_append h]
  rfl

theorem seenAs_markup (h : Undoes rules textRules) {item : Item} (hitem : item.WellFormed) :
    SeenAs rules item.markup item.content := by
  cases item with
  | text content => exact .escapeWith h guards_textRules content
  | tag t => exact .tag (not_mem_inside hitem (by decide))

/-- Of items the texts are seen. -/
theorem seenAs_join_markup (h : Undoes rules textRules) {items : List Item}
    (hitems : ∀ item ∈ items, item.WellFormed) :
    SeenAs rules (String.join (items.map Item.markup)) (String.join (items.map Item.content)) := by
  induction items with
  | nil => exact .empty
  | cons item items ih =>
    obtain ⟨hitem, hitems⟩ := List.forall_mem_cons.mp hitems
    rw [List.map_cons, List.map_cons, String.join_cons, String.join_cons]
    exact (seenAs_markup h hitem).append (ih hitems)

end

/-- Outside of tags stand the texts, escaped. -/
theorem unescape_outsideTags {items : List Item} (h : ∀ item ∈ items, item.WellFormed) :
    unescape (outsideTags (String.join (items.map Item.markup))) =
      String.join (items.map Item.content) :=
  (seenAs_join_markup undoes_textRules h).unescapeWith_outsideTags

/-! ### Reading tags -/

theorem readAttributes?_splitAt {attributes : List Attribute} (h : KeysNamed attributes) :
    readAttributes?
        (Text.splitAt '"' (String.join (attributes.map Attribute.markup)).toList) =
      some attributes := by
  induction attributes with
  | nil => rfl
  | cons a attributes ih =>
    obtain ⟨key, value⟩ := a
    have hkey : '"' ∉ ' ' :: key.toList ++ ['='] := by
      have hquote := not_mem_of_isKey (h ⟨key, value⟩ List.mem_cons_self) '"' rfl
      simp [hquote]
    have hmarkup : (String.join ((⟨key, value⟩ :: attributes).map Attribute.markup)).toList =
        (' ' :: key.toList ++ ['=']) ++ '"' :: ((escape value).toList ++
          '"' :: (String.join (attributes.map Attribute.markup)).toList) := by
      simp [Attribute.markup]
    have hvalue : '"' ∉ (escape value).toList := not_mem_escape (by decide) value
    rw [hmarkup, Text.splitAt_append_cons hkey, Text.splitAt_append_cons hvalue, List.cons_append,
      readAttributes?,
      ih fun b hb => h b (List.mem_cons_of_mem _ hb), String.ofList_toList, unescape_escape]
    simp

/-- A blank keeps attributes apart from what stands before them. -/
theorem attributes_eq_nil_or_cons (attributes : List Attribute) :
    (String.join (attributes.map Attribute.markup)).toList = [] ∨
      ∃ cs, (String.join (attributes.map Attribute.markup)).toList = ' ' :: cs := by
  cases attributes with
  | nil => exact .inl rfl
  | cons a attributes =>
    right
    simp [Attribute.markup]

/-- A tag is read as the one that was written. -/
theorem read?_inside {t : MarkupTag} (h : t.WellFormed) :
    MarkupTag.read? t.inside.toList = some t := by
  cases t with
  | closing name => simp [MarkupTag.inside, MarkupTag.read?]
  | opening name attributes =>
    obtain ⟨hname, hkeys⟩ := h
    have hblank : ∀ c ∈ name.toList, (c != ' ') = true := fun c hc =>
      bne_iff_ne.mpr (Reader.ne_of_isAlphanum (isAlphanum_of_isName hname c hc) rfl)
    have hattributes := readAttributes?_splitAt hkeys
    have hbegins := attributes_eq_nil_or_cons attributes
    have hinside : (MarkupTag.opening name attributes).inside.toList =
        name.toList ++ (String.join (attributes.map Attribute.markup)).toList := by
      rw [MarkupTag.inside, String.toList_append]
    generalize (String.join (attributes.map Attribute.markup)).toList = rest at *
    have hcut : rest.takeWhile (· != ' ') = [] ∧ rest.dropWhile (· != ' ') = rest := by
      rcases hbegins with rfl | ⟨cs, rfl⟩ <;> exact ⟨rfl, rfl⟩
    rw [hinside]
    unfold MarkupTag.read?
    split
    case h_1 slash after hslash =>
      -- a slash is no character of a name and no blank
      rcases List.append_eq_cons_iff.mp hslash with ⟨-, hrest⟩ | ⟨name', hcons, -⟩
      · rcases hbegins with rfl | ⟨cs, rfl⟩ <;> cases hrest
      · have hmem : '/' ∈ name.toList := by
          rw [hcons]
          exact List.mem_cons_self
        exact absurd hmem (not_mem_of_isName hname '/' rfl)
    case h_2 =>
      rw [List.takeWhile_append_of_pos hblank, List.dropWhile_append_of_pos hblank, hcut.1, hcut.2,
        hattributes, List.append_nil, String.ofList_toList]
      rfl

theorem tagsIn_join_markup {items : List Item} (h : ∀ item ∈ items, item.WellFormed) :
    tagsIn (String.join (items.map Item.markup)) = (items.filterMap Item.tag?).map some := by
  rw [tagsIn, parts_join_markup h]
  induction items with
  | nil => rfl
  | cons item items ih =>
    obtain ⟨hitem, hitems⟩ := List.forall_mem_cons.mp h
    rw [List.flatMap_cons, List.filterMap_append, List.map_append, ih hitems]
    cases item with
    | text content =>
      have hchars : (Item.text content).parts.filterMap Part.inside? = [] := by
        simp [Item.parts, List.filterMap_map, Part.inside?]
      rw [hchars]
      rfl
    | tag t =>
      have hread : MarkupTag.read? t.inside.toList = some t := read?_inside hitem
      simp [Item.parts, Part.inside?, Item.tag?, hread]

end MarkdownPreview.Html
