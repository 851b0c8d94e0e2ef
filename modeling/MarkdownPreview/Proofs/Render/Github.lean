import MarkdownPreview.Proofs.Html.Fragments
import MarkdownPreview.Proofs.Render.Markup
import MarkdownPreview.Render.Github

/-!
The tags of what the hook writes. Whether a handler takes a visit depends on the document alone, so
a node that is entered with a handler's markup is left with it as well.
-/

namespace MarkdownPreview

open Html (Shifts Balanced Plain plain_escape)
open Html.Reader (Reads)

namespace Render.Github

open Highlight (Highlighter)

theorem shifts_codeOpening (language : Option String) :
    Shifts (codeOpening language) [] ["code", "pre"] := by
  cases language with
  | none => exact .ofList rfl
  | some language =>
    have hstart : Reads ⟨[], .text⟩ "<pre class=\"highlight\"><code class=\"language-"
        ⟨["pre"], .value "code".toList⟩ := .ofList rfl
    have hend : Reads ⟨["pre"], .value "code".toList⟩ "\">" ⟨["code", "pre"], .text⟩ := rfl
    exact (hstart.append (.value (plain_escape language))).append hend

theorem balanced_codeBlock {highlighter : Highlighter} (h : highlighter.WellFormed)
    (theme : String) (info : Option String) (literal : String) :
    Balanced (String.join (codeBlock highlighter theme info literal).1) := by
  unfold codeBlock
  split
  · obtain ⟨html, hrender, hbalanced⟩ := Template.balanced_renderDiagram literal theme
    rw [hrender]
    exact hbalanced.single
  · cases hcode : highlighter (language? info) literal with
    | none =>
      rw [highlightedBlock_of_none hcode]
      rfl
    | some code =>
      have hclosing : Shifts "</code></pre>\n" ["code", "pre"] [] := rfl
      have hcode' : Shifts code ["code", "pre"] ["code", "pre"] := (h _ _ _ hcode).inside _
      rw [highlightedBlock_of_some hcode]
      exact (shifts_codeOpening _).cons (hcode'.cons hclosing.single)

/-- Running text is plain but for the images of emoji. -/
theorem balanced_richText (literal : String) : Balanced (richText literal) :=
  Emoji.balanced_substitute (plain_escape literal)

theorem balanced_checkbox (checked : Bool) : Balanced (TaskMarker.checkbox checked) := by
  cases checked <;> exact .ofList (by decide)

theorem balanced_leadingText (doc : Document) (i : Nat) {content : String}
    (h : Balanced content) : Balanced (String.join (leadingText doc i content)) := by
  unfold leadingText
  split
  · split
    case h_1 alert rest hparse => exact (Alert.balanced_rest h hparse).single
    case h_2 => exact h.single
  · split
    · split
      case h_1 checked rest hparse =>
        exact (balanced_checkbox checked).cons (TaskMarker.balanced_rest h hparse).single
      case h_2 => exact h.single
    · exact h.single
  · exact h.single

theorem balanced_text (doc : Document) (i : Nat) (literal : String) :
    Balanced (String.join (text doc i literal)) := by
  unfold text
  cases leadingParagraph? doc i with
  | none => exact (balanced_richText literal).single
  | some paragraph => exact balanced_leadingText doc paragraph (balanced_richText literal)

/-! ### Both visits of a node -/

/-- What is written for a visit: what the hook has to write, or else the default markup. -/
def written (highlighter : Highlighter) (theme : String) (doc : Document) (i : Nat)
    (entering : Bool) (ids : HeadingIds) : List String :=
  match output highlighter theme doc i entering with
  | some (pieces, _) => pieces
  | none => (markup doc i entering ids).1

/-- Whether the walk goes on to the children after a visit. -/
def writtenDescent (highlighter : Highlighter) (theme : String) (doc : Document) (i : Nat)
    (entering : Bool) : Descent :=
  match output highlighter theme doc i entering with
  | some (_, descent) => descent
  | none => descent entering (doc.element i)

/-- The two visits of a container fit together: the tags that the first one opens are those that
the second one closes, apart from a table's body. -/
def Encloses (highlighter : Highlighter) (theme : String) (doc : Document) (i : Nat) : Prop :=
  ∃ opened, (∀ ids, Shifts (String.join (written highlighter theme doc i true ids)) [] opened) ∧
    ∀ ids, Shifts (String.join (written highlighter theme doc i false ids))
      (namesAfterChildren (doc.element i) ++ opened) (namesAfter (doc.element i))

section

variable {highlighter : Highlighter} {theme : String} {doc : Document} {i : Nat}

theorem written_of_declined {entering : Bool} (ids : HeadingIds)
    (h : output highlighter theme doc i entering = none) :
    written highlighter theme doc i entering ids = (markup doc i entering ids).1 := by
  rw [written, h]

theorem written_of_taken {entering : Bool} {pieces : List String} {descent : Descent}
    (ids : HeadingIds) (h : output highlighter theme doc i entering = some (pieces, descent)) :
    written highlighter theme doc i entering ids = pieces := by
  rw [written, h]

theorem encloses_of_declined (hcontainer : (doc.element i).isContainer)
    (h : ∀ entering, output highlighter theme doc i entering = none) :
    Encloses highlighter theme doc i := by
  refine ⟨openedNames doc i (doc.element i), fun ids => ?_, fun ids => ?_⟩
  · rw [written_of_declined ids (h true)]
    exact shifts_markup_entering doc i ids hcontainer
  · rw [written_of_declined ids (h false)]
    exact shifts_markup_leaving doc i ids hcontainer

theorem encloses_of_taken {entering leaving : List String} {opened : List String}
    (hentering : output highlighter theme doc i true = some (entering, .children))
    (hleaving : output highlighter theme doc i false = some (leaving, .children))
    (hafter : namesAfter (doc.element i) = []) (hchildren : namesAfterChildren (doc.element i) = [])
    (hopen : Shifts (String.join entering) [] opened)
    (hclose : Shifts (String.join leaving) opened []) : Encloses highlighter theme doc i := by
  refine ⟨opened, fun ids => ?_, fun ids => ?_⟩
  · rw [written_of_taken ids hentering]
    exact hopen
  · rw [written_of_taken ids hleaving, hafter, hchildren]
    exact hclose

theorem encloses_blockQuote (hi : doc.element i = .blockQuote) :
    Encloses highlighter theme doc i := by
  have houtput (entering : Bool) :
      output highlighter theme doc i entering = blockQuote doc i := by
    rw [output, hi]
  by_cases halert : ((doc.firstChild? i).bind (paragraphAlert? doc)).isSome
  · have htaken (entering : Bool) :
        output highlighter theme doc i entering = some ([], .children) := by
      rw [houtput, blockQuote, if_pos halert]
    exact encloses_of_taken (htaken true) (htaken false) (by rw [hi]; rfl) (by rw [hi]; rfl)
      (.empty []) (.empty [])
  · refine encloses_of_declined (by rw [hi]; rfl) fun entering => ?_
    rw [houtput, blockQuote, if_neg halert]

/-- An alert's paragraph opens two elements by its template and closes them by a constant. -/
theorem encloses_paragraph {tight : Bool} (hi : doc.element i = .paragraph tight) :
    Encloses highlighter theme doc i := by
  have houtput (entering : Bool) :
      output highlighter theme doc i entering = paragraph doc i entering := by
    rw [output, hi]
  cases halert : paragraphAlert? doc i with
  | none =>
    refine encloses_of_declined (by rw [hi]; rfl) fun entering => ?_
    rw [houtput, paragraph, halert, Option.map_none]
  | some alert =>
    obtain ⟨html, hrender, hopen⟩ := Template.shifts_renderAlert alert
    have hentering : output highlighter theme doc i true = some ([html], .children) := by
      rw [houtput, paragraph, halert, Option.map_some, if_pos rfl, hrender]
      rfl
    have hleaving : output highlighter theme doc i false = some ([Alert.closing], .children) := by
      rw [houtput, paragraph, halert]
      rfl
    have hclose : Shifts Alert.closing ["p", "div"] [] := rfl
    exact encloses_of_taken hentering hleaving (by rw [hi]; rfl) (by rw [hi]; rfl) hopen.single
      hclose.single

theorem encloses_item (hi : doc.element i = .item) :
    Encloses highlighter theme doc i := by
  have houtput (entering : Bool) :
      output highlighter theme doc i entering = item doc i entering := by
    rw [output, hi]
  cases htask : (leadingLiteral? doc i).bind TaskMarker.parse? with
  | none =>
    refine encloses_of_declined (by rw [hi]; rfl) fun entering => ?_
    rw [houtput, item, htask, Option.map_none]
  | some task =>
    have hentering :
        output highlighter theme doc i true = some ([TaskMarker.itemOpening], .children) := by
      rw [houtput, item, htask]
      rfl
    have hleaving : output highlighter theme doc i false = some (["</li>\n"], .children) := by
      rw [houtput, item, htask]
      rfl
    have hopen : Shifts TaskMarker.itemOpening [] ["li"] := .ofList rfl
    have hclose : Shifts "</li>\n" ["li"] [] := rfl
    exact encloses_of_taken hentering hleaving (by rw [hi]; rfl) (by rw [hi]; rfl) hopen.single
      hclose.single

/-- Whatever handlers take the visits to a container, the second closes what the first opened. -/
theorem encloses_written (hcontainer : (doc.element i).isContainer) :
    Encloses highlighter theme doc i := by
  cases hi : doc.element i with
  | blockQuote => exact encloses_blockQuote hi
  | paragraph tight => exact encloses_paragraph hi
  | item => exact encloses_item hi
  | codeBlock _ _ | text _ =>
    rw [hi] at hcontainer
    cases hcontainer
  | _ =>
    -- no handler looks at the other containers
    refine encloses_of_declined hcontainer fun entering => ?_
    rw [output, hi]

/-- Markup of a leaf is balanced by itself, whoever writes it. -/
theorem balanced_written (hhighlighter : highlighter.WellFormed) (ids : HeadingIds)
    (hleaf : (doc.element i).isContainer = false) (hhtml : (doc.element i).isHtml = false) :
    Balanced (String.join (written highlighter theme doc i true ids)) := by
  cases hi : doc.element i with
  | codeBlock info literal =>
    have houtput : output highlighter theme doc i true =
        some (codeBlock highlighter theme info literal) := by
      rw [output, hi]
    rw [written_of_taken ids houtput]
    exact balanced_codeBlock hhighlighter theme info literal
  | text literal =>
    have houtput : output highlighter theme doc i true =
        some (text doc i literal, .children) := by
      rw [output, hi]
    rw [written_of_taken ids houtput]
    exact balanced_text doc i literal
  | blockQuote | paragraph _ | item =>
    rw [hi] at hleaf
    cases hleaf
  | _ =>
    have hdeclined : output highlighter theme doc i true = none := by
      rw [output, hi]
    rw [written_of_declined ids hdeclined]
    exact balanced_markup_leaf doc i ids hleaf hhtml

theorem fragmentOutput_children (rendered : Except Template.MissingTemplate String) :
    (fragmentOutput rendered .children).2 = .children := by
  cases rendered <;> rfl

/-- No handler keeps the walk from a container's children. -/
theorem descent_of_taken {entering : Bool} {pieces : List String} {d : Descent}
    (hcontainer : (doc.element i).isContainer)
    (h : output highlighter theme doc i entering = some (pieces, d)) : d = .children := by
  unfold output at h
  split at h
  case h_1 hi | h_4 hi =>
    rw [hi] at hcontainer
    cases hcontainer
  case h_2 =>
    unfold blockQuote at h
    split at h
    · cases h
      rfl
    · cases h
  case h_3 =>
    obtain ⟨alert, -, heq⟩ := Option.map_eq_some_iff.mp h
    cases entering with
    | true =>
      have hd := congrArg Prod.snd heq
      rw [if_pos rfl, fragmentOutput_children] at hd
      exact hd.symm
    | false =>
      cases heq
      rfl
  case h_5 =>
    obtain ⟨task, -, heq⟩ := Option.map_eq_some_iff.mp h
    cases heq
    rfl
  case h_6 => cases h

theorem writtenDescent_eq (hcontainer : (doc.element i).isContainer) :
    writtenDescent highlighter theme doc i true = descent true (doc.element i) := by
  unfold writtenDescent
  cases houtput : output highlighter theme doc i true with
  | none => rfl
  | some taken =>
    obtain ⟨pieces, d⟩ := taken
    have hd : d = .children := descent_of_taken hcontainer houtput
    have himage : ∀ url title, doc.element i ≠ .image url title := by
      intro url title hi
      rw [output, hi] at houtput
      cases houtput
    simp only [hd]
    unfold descent
    split
    · exact absurd ‹_› (himage _ _)
    · rfl

end

end Render.Github

end MarkdownPreview
