import MarkdownPreview.Proofs.Html.Items
import MarkdownPreview.Render.Markup

/-!
The items of default markup. For each visit there are the texts and the tags that are meant, with
the document's own values. What is written is written for these, and their tags have known names.
-/

namespace MarkdownPreview

/-- Raw HTML, which is written as it is. -/
def Element.isHtml : Element → Bool
  | html _ | htmlBlock _ => true
  | _ => false

namespace Render

open Html (Item Attribute KeysNamed escape)
open Html.Item (opening closing)

/-! ### The items of a visit -/

/-- An attribute is left out if its value is empty. -/
def attributeIfAny (key value : String) : List Attribute :=
  if value.isEmpty then [] else [⟨key, value⟩]

def languageAttribute : Option String → List Attribute
  | some language => [⟨"class", "language-" ++ language⟩]
  | none => []

def classesAttribute (classes : List String) : List Attribute :=
  if classes.isEmpty then [] else [⟨"class", " ".intercalate classes⟩]

def startAttribute (start : Nat) : List Attribute :=
  if start = 1 then [] else [⟨"start", toString start⟩]

def alignmentAttribute : Alignment → List Attribute
  | .none => []
  | .left => [⟨"style", "text-align:left"⟩]
  | .center => [⟨"style", "text-align:center"⟩]
  | .right => [⟨"style", "text-align:right"⟩]

/-- The alignment of a table cell is the table's for the cell's column. -/
def cellAlignment (doc : Document) (i : Nat) : Alignment :=
  match ((doc.parent? i).bind doc.parent?).map doc.element with
  | some (.table alignments) => alignments.getD (doc.indexInParent i) .none
  | _ => .none

/-- The texts and the tags of a visit to an element that is not raw HTML. A heading without an
identifier of its own has the one that is assigned to it. -/
def items (doc : Document) (i : Nat) (entering : Bool) (assigned : Option String) :
    Element → List Item
  | .document | .group | .metadata | .html _ | .htmlBlock _ => []
  | .paragraph tight =>
    if tight then [] else if entering then [opening "p" []] else [closing "p", .text "\n"]
  | .heading level id classes =>
    if entering then
      [opening ("h" ++ toString level)
        (attributeIfAny "id" ((id.or assigned).getD "") ++ classesAttribute classes)]
    else [closing ("h" ++ toString level), .text "\n"]
  | .blockQuote =>
    [if entering then opening "blockquote" [] else closing "blockquote", .text "\n"]
  | .codeBlock info literal =>
    [opening "pre" [], opening "code" (languageAttribute (language? info)), .text literal,
      closing "code", closing "pre", .text "\n"]
  | .list none => [if entering then opening "ul" [] else closing "ul", .text "\n"]
  | .list (some start) =>
    [if entering then opening "ol" (startAttribute start) else closing "ol", .text "\n"]
  | .item => if entering then [opening "li" []] else [closing "li", .text "\n"]
  | .table _ =>
    if entering then [opening "table" [], .text "\n"]
    else [closing "tbody", .text "\n", closing "table", .text "\n"]
  | .tableHead =>
    if entering then [opening "thead" [], .text "\n", opening "tr" []]
    else [closing "tr", .text "\n", closing "thead", .text "\n", opening "tbody" [], .text "\n"]
  | .tableRow => if entering then [opening "tr" []] else [closing "tr", .text "\n"]
  | .tableCell =>
    [if entering then opening (cellTag doc i) (alignmentAttribute (cellAlignment doc i))
      else closing (cellTag doc i)]
  | .emphasis => [if entering then opening "em" [] else closing "em"]
  | .strong => [if entering then opening "strong" [] else closing "strong"]
  | .strikethrough => [if entering then opening "del" [] else closing "del"]
  | .link url title =>
    [if entering then opening "a" (⟨"href", url⟩ :: attributeIfAny "title" title)
      else closing "a"]
  | .image url title =>
    if entering then
      [opening "img"
        (⟨"src", url⟩ :: ⟨"alt", doc.plainText i⟩ :: attributeIfAny "title" title)]
    else []
  | .footnoteDefinition label =>
    if entering then
      [opening "div" [⟨"class", "footnote-definition"⟩, ⟨"id", "fn-" ++ label⟩],
        opening "sup" [⟨"class", "footnote-definition-label"⟩], .text label, closing "sup"]
    else [closing "div", .text "\n"]
  | .footnoteReference label =>
    [opening "sup" [⟨"class", "footnote-reference"⟩], opening "a" [⟨"href", "#fn-" ++ label⟩],
      .text label, closing "a", closing "sup"]
  | .text literal => [.text literal]
  | .code literal => [opening "code" [], .text literal, closing "code"]
  | .math true literal =>
    [opening "span" [⟨"class", "math display"⟩], .text ("\\[" ++ literal ++ "\\]"),
      closing "span"]
  | .math false literal =>
    [opening "span" [⟨"class", "math inline"⟩], .text ("\\(" ++ literal ++ "\\)"),
      closing "span"]
  | .softBreak => [.text "\n"]
  | .hardBreak => [opening "br" [], .text "\n"]
  | .rule => [opening "hr" [], .text "\n"]

/-! ### What is written for them -/

@[simp] theorem escape_newline : escape "\n" = "\n" := Html.escape_ofList rfl

theorem attr_eq (key value : String) :
    attr key value = String.join ((attributeIfAny key value).map Attribute.markup) := by
  unfold attr attributeIfAny
  split
  · rfl
  · rw [List.map_singleton, String.join_cons, String.join_nil, String.append_empty]
    rfl

theorem classAttribute_eq (classes : List String) :
    markup.classAttribute classes =
      String.join ((classesAttribute classes).map Attribute.markup) := by
  unfold markup.classAttribute classesAttribute
  split
  · rfl
  · rw [← String.toList_inj]
    simp [Attribute.markup]

theorem codeOpening_eq (language : Option String) :
    codeOpening language =
      (opening "pre" []).markup ++ (opening "code" (languageAttribute language)).markup := by
  cases language with
  | none =>
    change "<pre><code>" = _
    simp [languageAttribute]
  | some language =>
    change "<pre><code class=\"language-" ++ escape language ++ "\">" = _
    have hlanguage : escape "language-" = "language-" := Html.escape_ofList rfl
    rw [← String.toList_inj]
    simp [languageAttribute, Attribute.markup, Html.escape_append, hlanguage]

theorem alignmentStyle_eq (alignment : Alignment) :
    alignmentStyle alignment =
      String.join ((alignmentAttribute alignment).map Attribute.markup) := by
  have hleft : escape "text-align:left" = "text-align:left" := Html.escape_ofList rfl
  have hcenter : escape "text-align:center" = "text-align:center" := Html.escape_ofList rfl
  have hright : escape "text-align:right" = "text-align:right" := Html.escape_ofList rfl
  cases alignment <;>
    simp [alignmentStyle, alignmentAttribute, Attribute.markup, hleft, hcenter, hright]

theorem cellStyle_eq (doc : Document) (i : Nat) :
    cellStyle doc i = alignmentStyle (cellAlignment doc i) := by
  unfold cellStyle cellAlignment
  cases (doc.parent? i).bind doc.parent? with
  | none => rfl
  | some table =>
    simp only [Option.map_some]
    cases doc.element table <;> rfl

theorem toList_toString (n : Nat) : (toString n).toList = Nat.toDigits 10 n := by
  rw [Nat.toString_eq_repr, Nat.toList_repr]

theorem isDigit_of_mem_toString (n : Nat) : ∀ c ∈ (toString n).toList, c.isDigit := by
  intro c hc
  rw [toList_toString] at hc
  exact Nat.isDigit_of_mem_toDigits (by decide) (by decide) hc

theorem escape_toString (n : Nat) : escape (toString n) = toString n := by
  refine Html.escape_eq_self fun c hc => ?_
  have hrules : ∀ rule ∈ Html.textRules, rule.1.isDigit = false := by decide
  rw [List.lookup_eq_none_iff]
  intro rule hrule
  rw [bne_iff_ne]
  rintro rfl
  have hdigit := isDigit_of_mem_toString n rule.1 hc
  rw [hrules rule hrule] at hdigit
  cases hdigit

theorem join_pieces_list (doc : Document) (i : Nat) (entering : Bool) (assigned : Option String)
    (start : Option Nat) :
    String.join (pieces doc i entering (.list start)) =
      String.join ((items doc i entering assigned (.list start)).map Item.markup) := by
  rw [← String.toList_inj]
  cases start with
  | none => cases entering <;> simp [pieces, items]
  | some start =>
    have hstart := escape_toString start
    rw [Nat.toString_eq_repr] at hstart
    cases entering with
    | false => simp [pieces, items]
    | true =>
      by_cases hone : start = 1
      · simp [pieces, items, startAttribute, hone]
      · simp [pieces, items, startAttribute, hone, Attribute.markup, hstart]

theorem join_pieces_footnoteDefinition (doc : Document) (i : Nat) (entering : Bool)
    (assigned : Option String) (label : String) :
    String.join (pieces doc i entering (.footnoteDefinition label)) =
      String.join
        ((items doc i entering assigned (.footnoteDefinition label)).map Item.markup) := by
  have hid : escape "fn-" = "fn-" := Html.escape_ofList rfl
  have hdefinition : escape "footnote-definition" = "footnote-definition" := Html.escape_ofList rfl
  have hlabel : escape "footnote-definition-label" = "footnote-definition-label" :=
    Html.escape_ofList rfl
  rw [← String.toList_inj]
  cases entering <;>
    simp [pieces, items, Attribute.markup, Html.escape_append, hid, hdefinition, hlabel]

theorem join_pieces_footnoteReference (doc : Document) (i : Nat) (entering : Bool)
    (assigned : Option String) (label : String) :
    String.join (pieces doc i entering (.footnoteReference label)) =
      String.join ((items doc i entering assigned (.footnoteReference label)).map Item.markup) := by
  have hid : escape "#fn-" = "#fn-" := Html.escape_ofList rfl
  have hreference : escape "footnote-reference" = "footnote-reference" := Html.escape_ofList rfl
  rw [← String.toList_inj]
  simp [pieces, items, Attribute.markup, Html.escape_append, hid, hreference]

theorem join_pieces_math (doc : Document) (i : Nat) (entering : Bool) (assigned : Option String)
    (display : Bool) (literal : String) :
    String.join (pieces doc i entering (.math display literal)) =
      String.join ((items doc i entering assigned (.math display literal)).map Item.markup) := by
  have hdisplay : escape "math display" = "math display" := Html.escape_ofList rfl
  have hinline : escape "math inline" = "math inline" := Html.escape_ofList rfl
  have hbrackets : escape "\\[" = "\\[" ∧ escape "\\]" = "\\]" :=
    ⟨Html.escape_ofList rfl, Html.escape_ofList rfl⟩
  have hparentheses : escape "\\(" = "\\(" ∧ escape "\\)" = "\\)" :=
    ⟨Html.escape_ofList rfl, Html.escape_ofList rfl⟩
  rw [← String.toList_inj]
  cases display with
  | true => simp [pieces, items, Attribute.markup, Html.escape_append, hdisplay, hbrackets]
  | false => simp [pieces, items, Attribute.markup, Html.escape_append, hinline, hparentheses]

/-- What is written for an element other than a heading is written for its items. -/
theorem join_pieces (doc : Document) (i : Nat) (entering : Bool) (assigned : Option String)
    {e : Element} (hhtml : e.isHtml = false)
    (hheading : ∀ level id classes, e ≠ .heading level id classes) :
    String.join (pieces doc i entering e) =
      String.join ((items doc i entering assigned e).map Item.markup) := by
  cases e with
  | html _ | htmlBlock _ => cases hhtml
  | heading level id classes => exact absurd rfl (hheading level id classes)
  | document | group | metadata => rfl
  | blockQuote | item | table _ | tableHead | tableRow | emphasis | strong | strikethrough =>
    cases entering <;> simp [pieces, items, bareTag]
  | softBreak | hardBreak | rule => simp [pieces, items]
  | paragraph tight => cases tight <;> cases entering <;> simp [pieces, items]
  | list start => exact join_pieces_list doc i entering assigned start
  | tableCell => cases entering <;> simp [pieces, items, cellStyle_eq, alignmentStyle_eq]
  | text literal => simp [pieces, items]
  | codeBlock info literal =>
    rw [← String.toList_inj]
    simp [pieces, items, codeOpening_eq]
  | code literal =>
    rw [← String.toList_inj]
    simp [pieces, items]
  | link url title | image url title =>
    rw [← String.toList_inj]
    cases entering <;> simp [pieces, items, attr_eq, Attribute.markup]
  | footnoteDefinition label => exact join_pieces_footnoteDefinition doc i entering assigned label
  | footnoteReference label => exact join_pieces_footnoteReference doc i entering assigned label
  | math display literal => exact join_pieces_math doc i entering assigned display literal

/-- A heading's identifier is its own or the one that is assigned when it is entered. -/
theorem join_markup (doc : Document) (i : Nat) (entering : Bool) (ids : HeadingIds)
    {assigned : Option String} (h : (doc.element i).isHtml = false)
    (hassigned : ∀ level classes, entering → doc.element i = .heading level none classes →
      assigned = some (ids.assign (doc.plainText i)).1) :
    String.join (markup doc i entering ids).1 =
      String.join ((items doc i entering assigned (doc.element i)).map Item.markup) := by
  unfold markup
  split
  case h_1 level id classes heq =>
    rw [heq, ← String.toList_inj]
    cases entering with
    | false => simp [items]
    | true =>
      cases id with
      | none =>
        rw [hassigned level classes rfl heq]
        simp [items, attr_eq, classAttribute_eq]
      | some id => simp [items, attr_eq, classAttribute_eq]
  case h_2 hheading => exact join_pieces doc i entering assigned h hheading

/-! ### Names -/

/-- The names of the tags in default markup, headings apart. -/
def tagNames : List String :=
  ["p", "blockquote", "pre", "code", "ul", "ol", "li", "table", "thead", "tbody", "tr", "th", "td",
   "em", "strong", "del", "a", "img", "div", "sup", "span", "br", "hr"]

def IsTagName (name : String) : Prop := name ∈ tagNames ∨ Html.isHeadingName name.toList

instance (name : String) : Decidable (IsTagName name) := inferInstanceAs (Decidable (_ ∨ _))

/-- An item that default markup may have. -/
def Known : Item → Prop
  | .text _ => True
  | .tag (.opening name attributes) => IsTagName name ∧ KeysNamed attributes
  | .tag (.closing name) => IsTagName name

@[simp] theorem known_text (content : String) : Known (.text content) := trivial

@[simp] theorem known_opening {name : String} {attributes : List Attribute} :
    Known (opening name attributes) ↔ IsTagName name ∧ KeysNamed attributes := Iff.rfl

@[simp] theorem known_closing {name : String} : Known (closing name) ↔ IsTagName name := Iff.rfl

theorem keysNamed_attributeIfAny (key : String) (h : Html.isKey key.toList) (value : String) :
    KeysNamed (attributeIfAny key value) := by
  unfold attributeIfAny
  split <;> simp [h]

theorem keysNamed_classesAttribute (classes : List String) :
    KeysNamed (classesAttribute classes) := by
  unfold classesAttribute
  split <;> simp +decide

theorem keysNamed_startAttribute (start : Nat) : KeysNamed (startAttribute start) := by
  unfold startAttribute
  split <;> simp +decide

theorem keysNamed_languageAttribute (language : Option String) :
    KeysNamed (languageAttribute language) := by
  cases language <;> simp +decide [languageAttribute]

theorem keysNamed_alignmentAttribute (alignment : Alignment) :
    KeysNamed (alignmentAttribute alignment) := by
  cases alignment <;> simp +decide [alignmentAttribute]

def headingName (level : Nat) : List Char := 'h' :: Nat.toDigits 10 level

theorem isHeadingName_headingName (level : Nat) : Html.isHeadingName (headingName level) := by
  have hne : (Nat.toDigits 10 level).isEmpty = false := by
    rw [List.isEmpty_eq_false_iff]
    exact Nat.toDigits_ne_nil
  have hdigits : (Nat.toDigits 10 level).all Char.isDigit := by
    rw [List.all_eq_true, ← toList_toString]
    exact isDigit_of_mem_toString level
  rw [headingName, Html.isHeadingName, hne, hdigits]
  rfl

theorem ofList_headingName (level : Nat) :
    String.ofList (headingName level) = "h" ++ toString level := by
  rw [← String.toList_inj, String.toList_ofList, String.toList_append, toList_toString]
  rfl

theorem isHeadingName_toList (level : Nat) :
    Html.isHeadingName ("h" ++ toString level).toList := by
  rw [← ofList_headingName, String.toList_ofList]
  exact isHeadingName_headingName level

theorem cellTag_eq (doc : Document) (i : Nat) : cellTag doc i = "th" ∨ cellTag doc i = "td" := by
  unfold cellTag
  split
  · split
    · exact .inl rfl
    · exact .inr rfl
  · exact .inr rfl

theorem isTagName_cellTag (doc : Document) (i : Nat) : IsTagName (cellTag doc i) := by
  rcases cellTag_eq doc i with htag | htag <;> rw [htag] <;> decide

theorem known_items (doc : Document) (i : Nat) (entering : Bool) (assigned : Option String)
    (e : Element) : ∀ item ∈ items doc i entering assigned e, Known item := by
  have htitle := keysNamed_attributeIfAny "title" (by decide)
  have hid := keysNamed_attributeIfAny "id" (by decide)
  cases e with
  | document | group | metadata | html _ | htmlBlock _ => exact List.forall_mem_nil _
  | softBreak | hardBreak | rule | text _ | code _ | footnoteReference _ => simp +decide [items]
  | blockQuote | item | table _ | tableHead | tableRow | emphasis | strong | strikethrough
  | link _ _ | image _ _ | footnoteDefinition _ => cases entering <;> simp +decide [items, htitle]
  | paragraph tight => cases tight <;> cases entering <;> simp +decide [items]
  | math display literal => cases display <;> simp +decide [items]
  | codeBlock info literal =>
    have hlanguage := keysNamed_languageAttribute (language? info)
    simp +decide [items, hlanguage]
  | tableCell =>
    have htag := isTagName_cellTag doc i
    have hstyle := keysNamed_alignmentAttribute (cellAlignment doc i)
    cases entering <;> simp [items, htag, hstyle]
  | heading level id classes =>
    have hname : IsTagName ("h" ++ toString level) := .inr (isHeadingName_toList level)
    have hclasses := keysNamed_classesAttribute classes
    rw [Nat.toString_eq_repr] at hname
    cases entering <;> simp [items, hname, hid, hclasses]
  | list start =>
    cases start with
    | none => cases entering <;> simp +decide [items]
    | some start =>
      have hstart := keysNamed_startAttribute start
      cases entering <;> simp +decide [items, hstart]

theorem isName_of_isTagName {name : String} (h : IsTagName name) : Html.isName name.toList := by
  rcases h with hmem | hheading
  · have hnames : ∀ name ∈ tagNames, Html.isName name.toList := by decide
    exact hnames name hmem
  · unfold Html.isHeadingName at hheading
    split at hheading
    case h_1 level hname =>
      rw [Bool.and_eq_true, List.all_eq_true] at hheading
      have hlevel : ∀ c ∈ level, c.isAlphanum := fun c hc => by
        rw [Char.isAlphanum, hheading.2 c hc, Bool.or_true]
      rw [hname]
      exact List.all_eq_true.mpr hlevel
    case h_2 => cases hheading

theorem Known.wellFormed {item : Item} (h : Known item) : item.WellFormed := by
  match item, h with
  | .text _, _ => trivial
  | .tag (.opening _ _), h => exact ⟨isName_of_isTagName h.1, h.2⟩
  | .tag (.closing _), h => exact isName_of_isTagName h

end Render

end MarkdownPreview
