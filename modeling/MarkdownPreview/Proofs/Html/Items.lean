import MarkdownPreview.Proofs.Html.Tags

/-!
Markup as a row of texts and tags. Written texts and attribute values are escaped, so a tag is read
as it is meant whatever its values are, and what is open after a row of items is found out from
their names alone.
-/

namespace MarkdownPreview.Html

/-- An attribute has the value that is meant, not what is written for it. -/
structure Attribute where
  key : String
  value : String
  deriving DecidableEq, Repr

inductive MarkupTag
  | opening (name : String) (attributes : List Attribute)
  | closing (name : String)
  deriving DecidableEq, Repr

inductive Item
  | text (content : String)
  | tag (t : MarkupTag)
  deriving DecidableEq, Repr

def Item.opening (name : String) (attributes : List Attribute) : Item :=
  .tag (.opening name attributes)

def Item.closing (name : String) : Item := .tag (.closing name)

/-! ### Writing -/

def Attribute.markup (a : Attribute) : String := " " ++ a.key ++ "=\"" ++ escape a.value ++ "\""

/-- What stands between the `<` and the `>` of a tag. -/
def MarkupTag.inside : MarkupTag → String
  | opening name attributes => name ++ String.join (attributes.map Attribute.markup)
  | closing name => "/" ++ name

def Item.markup : Item → String
  | text content => escape content
  | tag t => "<" ++ t.inside ++ ">"

def Item.content : Item → String
  | text content => content
  | tag _ => ""

def Item.tag? : Item → Option MarkupTag
  | text _ => none
  | tag t => some t

section Api

variable (content name : String) (attributes : List Attribute)

@[simp] theorem markup_text : (Item.text content).markup = escape content := rfl

@[simp] theorem markup_opening : (Item.opening name attributes).markup =
    "<" ++ name ++ String.join (attributes.map Attribute.markup) ++ ">" := by
  rw [← String.toList_inj]
  simp [Item.opening, Item.markup, MarkupTag.inside]

@[simp] theorem markup_closing : (Item.closing name).markup = "</" ++ name ++ ">" := by
  rw [← String.toList_inj]
  simp [Item.closing, Item.markup, MarkupTag.inside]

@[simp] theorem content_text : (Item.text content).content = content := rfl

@[simp] theorem content_opening : (Item.opening name attributes).content = "" := rfl

@[simp] theorem content_closing : (Item.closing name).content = "" := rfl

end Api

/-! ### Names and keys -/

/-- The name of a tag: a letter, and letters and digits after it. -/
def isName : List Char → Bool
  | c :: cs => c.isAlpha && cs.all Char.isAlphanum
  | [] => false

/-- The key of an attribute: letters. -/
def isKey (cs : List Char) : Bool := !cs.isEmpty && cs.all Char.isAlpha

def KeysNamed (attributes : List Attribute) : Prop := ∀ a ∈ attributes, isKey a.key.toList

@[simp] theorem keysNamed_nil : KeysNamed [] := List.forall_mem_nil _

@[simp] theorem keysNamed_cons {a : Attribute} {attributes : List Attribute} :
    KeysNamed (a :: attributes) ↔ isKey a.key.toList ∧ KeysNamed attributes :=
  List.forall_mem_cons

@[simp] theorem keysNamed_append {attributes attributes' : List Attribute} :
    KeysNamed (attributes ++ attributes') ↔ KeysNamed attributes ∧ KeysNamed attributes' :=
  List.forall_mem_append

/-- Values may be any text. -/
def MarkupTag.WellFormed : MarkupTag → Prop
  | opening name attributes => isName name.toList ∧ KeysNamed attributes
  | closing name => isName name.toList

/-- Any text may be written. -/
def Item.WellFormed : Item → Prop
  | text _ => True
  | tag t => t.WellFormed

@[simp] theorem wellFormed_text (content : String) : (Item.text content).WellFormed := trivial

@[simp] theorem wellFormed_opening {name : String} {attributes : List Attribute} :
    (Item.opening name attributes).WellFormed ↔ isName name.toList ∧ KeysNamed attributes :=
  Iff.rfl

@[simp] theorem wellFormed_closing {name : String} :
    (Item.closing name).WellFormed ↔ isName name.toList :=
  Iff.rfl

theorem isAlphanum_of_isAlpha {c : Char} (h : c.isAlpha) : c.isAlphanum := by
  rw [Char.isAlphanum, h, Bool.true_or]

theorem isAlphanum_of_isName {cs : List Char} (h : isName cs) : ∀ c ∈ cs, c.isAlphanum := by
  cases cs with
  | nil => cases h
  | cons c cs =>
    rw [isName, Bool.and_eq_true, List.all_eq_true] at h
    exact List.forall_mem_cons.mpr ⟨isAlphanum_of_isAlpha h.1, h.2⟩

theorem isAlpha_of_isKey {cs : List Char} (h : isKey cs) : ∀ c ∈ cs, c.isAlpha := by
  rw [isKey, Bool.and_eq_true, List.all_eq_true] at h
  exact h.2

theorem not_mem_of_isName {cs : List Char} (h : isName cs) (c : Char)
    (hc : c.isAlphanum = false) : c ∉ cs := fun hmem =>
  Reader.ne_of_isAlphanum (isAlphanum_of_isName h c hmem) hc rfl

theorem not_mem_of_isKey {cs : List Char} (h : isKey cs) (c : Char)
    (hc : c.isAlphanum = false) : c ∉ cs := fun hmem =>
  Reader.ne_of_isAlphanum (isAlphanum_of_isAlpha (isAlpha_of_isKey h c hmem)) hc rfl

/-- No angle bracket stands in a tag. -/
theorem not_mem_inside {t : MarkupTag} (h : t.WellFormed) {c : Char} (hc : c ∈ ['<', '>']) :
    c ∉ t.inside.toList := by
  have hbracket : c.isAlphanum = false ∧ c ∈ specialChars ∧ c ∉ [' ', '=', '"', '/'] := by
    simp only [List.mem_cons, List.not_mem_nil, or_false] at hc
    rcases hc with rfl | rfl <;> decide
  obtain ⟨hletter, hspecial, hmarks⟩ := hbracket
  simp only [List.mem_cons, List.not_mem_nil, or_false, not_or] at hmarks
  cases t with
  | closing name =>
    have hname := not_mem_of_isName h c hletter
    simp [MarkupTag.inside, hname, hmarks]
  | opening name attributes =>
    have hname := not_mem_of_isName h.1 c hletter
    have hattributes : ∀ a ∈ attributes, c ∉ a.markup.toList := by
      intro a ha
      have hkey := not_mem_of_isKey (h.2 a ha) c hletter
      have hvalue := not_mem_escape hspecial a.value
      simp [Attribute.markup, hkey, hvalue, hmarks]
    simpa [MarkupTag.inside, hname] using hattributes

/-! ### Open elements -/

namespace Reader

variable {names : List String}

theorem Reads.tagStart {name : String} (h : isName name.toList) :
    Reads ⟨names, .text⟩ ("<" ++ name) ⟨names, .opening name.toList⟩ := by
  obtain ⟨c, cs, hname⟩ : ∃ c cs, name.toList = c :: cs := by
    cases hname : name.toList with
    | nil =>
      rw [hname] at h
      cases h
    | cons c cs => exact ⟨c, cs, rfl⟩
  rw [hname, isName, Bool.and_eq_true, List.all_eq_true] at h
  have hopening : Reads ⟨names, .text⟩ "<" ⟨names, .tag⟩ := rfl
  have hletter : Reads ⟨names, .tag⟩ (String.ofList [c]) ⟨names, .opening [c]⟩ := by
    have hslash : c ≠ '/' := ne_of_isAlphanum (isAlphanum_of_isAlpha h.1) rfl
    refine .ofList ?_
    simp [step, Place.action, act, hslash, h.1]
  have hrest : Reads ⟨names, .opening [c]⟩ (String.ofList cs)
      ⟨names, .opening ([c] ++ (String.ofList cs).toList)⟩ :=
    Reads.openingName (by simpa using h.2) [c]
  have hparts : name = String.ofList [c] ++ String.ofList cs := by
    rw [← String.toList_inj, hname]
    simp
  rw [hparts]
  simpa using hopening.append (hletter.append hrest)

theorem Reads.key {key : String} (h : isKey key.toList) (name : List Char) :
    Reads ⟨names, .gap name⟩ key ⟨names, .key name⟩ := by
  have hletters := isAlpha_of_isKey h
  unfold Reads
  cases hkey : key.toList with
  | nil =>
    rw [hkey] at h
    cases h
  | cons c cs =>
    rw [hkey] at hletters
    obtain ⟨hc, hcs⟩ := List.forall_mem_cons.mp hletters
    have hfirst : step ⟨names, .gap name⟩ c = some ⟨names, .key name⟩ := by
      simp [step, Place.action, act, hc]
    rw [List.foldlM_cons, hfirst]
    refine foldlM_step_stay fun d hd => ?_
    have hne {e : Char} (he : e.isAlphanum = false) : d ≠ e :=
      ne_of_isAlphanum (isAlphanum_of_isAlpha (hcs d hd)) he
    have hgreater : d ≠ '>' := hne rfl
    have hblank : d ≠ ' ' := hne rfl
    have hequals : d ≠ '=' := hne rfl
    simp [step, Place.action, act, hgreater, hblank, hequals, hcs d hd]

theorem Attributes.markup {a : Attribute} (h : isKey a.key.toList) : Attributes a.markup := by
  have hequals : ∀ names name, Reads ⟨names, .key name⟩ "=\"" ⟨names, .value name⟩ :=
    fun _ _ => rfl
  have hkey (names : List String) (place : Place) (name : List Char)
      (hblank : Reads ⟨names, place⟩ " " ⟨names, .gap name⟩) :
      Reads ⟨names, place⟩ (" " ++ a.key ++ "=\"") ⟨names, .value name⟩ :=
    (hblank.append (.key h name)).append (hequals names name)
  exact .value (plain_escape a.value) (fun names name => hkey names _ name rfl)
    (fun names name => hkey names _ name rfl)

theorem Attributes.join_markup {attributes : List Attribute} (h : KeysNamed attributes) :
    Attributes (String.join (attributes.map Attribute.markup)) := by
  induction attributes with
  | nil => exact .empty
  | cons a attributes ih =>
    obtain ⟨ha, hattributes⟩ := keysNamed_cons.mp h
    rw [List.map_cons, String.join_cons]
    exact (Attributes.markup ha).append (ih hattributes)

end Reader

def MarkupTag.action : MarkupTag → Action
  | opening name _ => .openTag name.toList
  | closing name => .closeTag name.toList

/-- The elements that are open after an item; nothing if it must not stand there. -/
def Item.openNames? (names : List String) : Item → Option (List String)
  | text _ => some names
  | tag t => (Reader.act names t.action).map Reader.openNames

@[simp] theorem openNames?_text (names : List String) (content : String) :
    (Item.text content).openNames? names = some names := rfl

theorem openNames?_opening {name : String}
    (h : isHeadingName name.toList ∨ name ∈ contentNames) (attributes : List Attribute)
    (names : List String) :
    (Item.opening name attributes).openNames? names = some (name :: names) := by
  simp only [Item.opening, Item.openNames?, MarkupTag.action, Reader.act, String.ofList_toList,
    if_pos h, Option.map_some]

@[simp] theorem openNames?_closing (name : String) (names : List String) :
    (Item.closing name).openNames? (name :: names) = some names := by
  simp [Item.closing, Item.openNames?, MarkupTag.action, Reader.act]

theorem reads_opening {names : List String} {name : String} {attributes : List Attribute}
    (h : (MarkupTag.opening name attributes).WellFormed) {r : Reader}
    (hact : Reader.act names (.openTag name.toList) = some r) :
    Reader.Reads ⟨names, .text⟩ (Item.opening name attributes).markup r := by
  rw [markup_opening]
  exact (Reader.Reads.tagStart h.1).tagEnd (Reader.opening_mem_tagEnds _)
    (Reader.Attributes.join_markup h.2) hact

theorem reads_closing {names : List String} {name : String}
    (h : (MarkupTag.closing name).WellFormed) {r : Reader}
    (hact : Reader.act names (.closeTag name.toList) = some r) :
    Reader.Reads ⟨names, .text⟩ (Item.closing name).markup r := by
  have hstart : Reader.Reads ⟨names, .text⟩ "</" ⟨names, .closing []⟩ := rfl
  have hname : Reader.Reads ⟨names, .closing []⟩ name ⟨names, .closing ([] ++ name.toList)⟩ :=
    .closingName (isAlphanum_of_isName h) []
  have hend : Reader.Reads ⟨names, .closing name.toList⟩ ">" r := by
    refine .ofList ?_
    rw [List.foldlM_cons, Reader.step, Place.action, if_pos rfl, Option.bind_some, hact]
    rfl
  rw [markup_closing]
  exact (hstart.append hname).append hend

/-- After a tag a reader is outside of tags. -/
theorem place_eq_text {names : List String} {t : MarkupTag} {r : Reader}
    (h : Reader.act names t.action = some r) : r.place = .text := by
  cases t with
  | opening name attributes =>
    simp only [MarkupTag.action, Reader.act] at h
    split at h
    case isTrue =>
      cases h
      rfl
    case isFalse =>
      split at h
      case isTrue =>
        cases h
        rfl
      case isFalse => cases h
  | closing name =>
    cases names with
    | nil => cases h
    | cons innermost outer =>
      simp only [MarkupTag.action, Reader.act] at h
      split at h
      case isTrue =>
        cases h
        rfl
      case isFalse => cases h

theorem shifts_markup {names names' : List String} {item : Item} (h : item.WellFormed)
    (hopen : item.openNames? names = some names') : Shifts item.markup names names' := by
  cases item with
  | text content =>
    cases hopen
    exact .plainText (plain_escape content)
  | tag t =>
    obtain ⟨r, hact, rfl⟩ := Option.map_eq_some_iff.mp hopen
    have hplace : (⟨r.openNames, .text⟩ : Reader) = r := by rw [← place_eq_text hact]
    rw [Shifts, hplace]
    cases t with
    | opening name attributes => exact reads_opening h hact
    | closing name => exact reads_closing h hact

/-- The elements that are open after items are those after one item and the next. -/
theorem shifts_join_markup {items : List Item} {names names' : List String}
    (h : ∀ item ∈ items, item.WellFormed)
    (hopen : items.foldlM Item.openNames? names = some names') :
    Shifts (String.join (items.map Item.markup)) names names' := by
  induction items generalizing names with
  | nil =>
    cases hopen
    exact .empty _
  | cons item items ih =>
    obtain ⟨hitem, hitems⟩ := List.forall_mem_cons.mp h
    obtain ⟨between, hbetween, hrest⟩ := Option.bind_eq_some_iff.mp hopen
    rw [List.map_cons]
    exact (shifts_markup hitem hbetween).cons (ih hitems hrest)

end MarkdownPreview.Html
