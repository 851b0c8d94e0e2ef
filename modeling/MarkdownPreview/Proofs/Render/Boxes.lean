import MarkdownPreview.Proofs.Render.Markup
import MarkdownPreview.Proofs.Render.Openings

/-!
Boxes in the output. Of all that is written, only a checkbox has a tag that begins with `in`, so no
box begins in anything else: not in escaped text, in templates, in emoji, or in tags of other names.
-/

namespace MarkdownPreview

namespace Html

/-- Whether a test holds of what follows each angle bracket. -/
def everyTag (test : List Char → Bool) : List Char → Bool
  | [] => true
  | c :: rest => (c != '<' || test rest) && everyTag test rest

/-- Whether something other than a box follows an angle bracket, whatever comes after it. -/
def opensNoBox : List Char → Bool
  | 'i' :: c :: _ => c != 'n'
  | c :: _ => c != 'i'
  | [] => false

/-- Whether a span opens or closes after an angle bracket. -/
def opensSpan (cs : List Char) : Bool :=
  ['s', 'p', 'a', 'n'].isPrefixOf cs || ['/', 's', 'p', 'a', 'n'].isPrefixOf cs

/-- Markup in which no box begins. -/
def Boxless (s : String) : Prop := everyTag opensNoBox s.toList

instance (s : String) : Decidable (Boxless s) :=
  inferInstanceAs (Decidable (everyTag opensNoBox s.toList = true))

theorem opensNoBox_of_ne {c : Char} (h : c ≠ 'i') (cs : List Char) : opensNoBox (c :: cs) := by
  unfold opensNoBox
  split
  case h_1 heq => exact absurd (List.cons.inj heq).1 h
  case h_2 heq => exact bne_iff_ne.mpr ((List.cons.inj heq).1 ▸ h)
  case h_3 heq => cases heq

theorem opensNoBox_append {cs : List Char} (h : opensNoBox cs) (ds : List Char) :
    opensNoBox (cs ++ ds) := by
  cases cs with
  | nil => cases h
  | cons c cs =>
    by_cases hc : c = 'i'
    · subst hc
      cases cs with
      | nil => cases h
      | cons d cs => exact h
    · exact opensNoBox_of_ne hc (cs ++ ds)

theorem opensSpan_append {cs : List Char} (h : opensSpan cs) (ds : List Char) :
    opensSpan (cs ++ ds) := by
  simp only [opensSpan, Bool.or_eq_true, List.isPrefixOf_iff_prefix] at h ⊢
  exact h.imp (·.trans (List.prefix_append cs ds)) (·.trans (List.prefix_append cs ds))

theorem opensNoBox_of_opensSpan {cs : List Char} (h : opensSpan cs) : opensNoBox cs := by
  simp only [opensSpan, Bool.or_eq_true, List.isPrefixOf_iff_prefix] at h
  rcases h with ⟨rest, rfl⟩ | ⟨rest, rfl⟩
  · exact opensNoBox_of_ne (by decide) _
  · exact opensNoBox_of_ne (by decide) _

theorem everyTag_append {test : List Char → Bool}
    (htest : ∀ cs, test cs → ∀ ds, test (cs ++ ds)) {cs ds : List Char} (h : everyTag test cs)
    (h' : everyTag test ds) : everyTag test (cs ++ ds) := by
  induction cs with
  | nil => exact h'
  | cons c cs ih =>
    simp only [everyTag, Bool.and_eq_true, Bool.or_eq_true, List.cons_append] at h ⊢
    exact ⟨h.1.imp_right fun hopens => htest cs hopens ds, ih h.2⟩

theorem everyTag_of_not_mem {test : List Char → Bool} {cs : List Char} (h : '<' ∉ cs) :
    everyTag test cs := by
  induction cs with
  | nil => rfl
  | cons c cs ih =>
    rw [List.mem_cons, not_or] at h
    rw [everyTag, ih h.2, Bool.and_true, Bool.or_eq_true, bne_iff_ne]
    exact .inl (Ne.symm h.1)

theorem everyTag_mono {test test' : List Char → Bool} (htest : ∀ cs, test cs → test' cs)
    {cs : List Char} (h : everyTag test cs) : everyTag test' cs := by
  induction cs with
  | nil => rfl
  | cons c cs ih =>
    simp only [everyTag, Bool.and_eq_true, Bool.or_eq_true] at h ⊢
    exact ⟨h.1.imp_right (htest cs), ih h.2⟩

/-- The first place where a box can begin is after markup without one. -/
theorem length_le_of_everyTag {cs ds before after : List Char} (h : everyTag opensNoBox cs)
    (heq : cs ++ ds = before ++ ("<input".toList ++ after)) : cs.length ≤ before.length := by
  induction cs generalizing before with
  | nil => exact Nat.zero_le _
  | cons c cs ih =>
    rw [everyTag, Bool.and_eq_true] at h
    cases before with
    | nil =>
      have hinput : "<input".toList = ['<', 'i', 'n', 'p', 'u', 't'] := by decide
      rw [hinput] at heq
      obtain ⟨rfl, hrest⟩ := List.cons.inj heq
      have hopens : opensNoBox (cs ++ ds) := opensNoBox_append (by simpa using h.1) ds
      change cs ++ ds = ['i', 'n', 'p', 'u', 't'] ++ after at hrest
      rw [hrest] at hopens
      cases hopens
    | cons b before =>
      exact Nat.succ_le_succ (ih h.2 (List.cons.inj heq).2)

theorem Boxless.append {s t : String} (h : Boxless s) (h' : Boxless t) : Boxless (s ++ t) := by
  rw [Boxless, String.toList_append]
  exact everyTag_append (fun _ => opensNoBox_append) h h'

theorem Boxless.ofList {cs : List Char} (h : everyTag opensNoBox cs) :
    Boxless (String.ofList cs) := by
  rw [Boxless, String.toList_ofList]
  exact h

theorem Boxless.cons {s : String} {pieces : List String} (h : Boxless s)
    (h' : Boxless (String.join pieces)) : Boxless (String.join (s :: pieces)) := by
  rw [String.join_cons]
  exact h.append h'

theorem Boxless.single {s : String} (h : Boxless s) : Boxless (String.join [s]) := h.cons rfl

theorem Plain.boxless {s : String} (h : Plain s) : Boxless s :=
  everyTag_of_not_mem fun hmem => h '<' hmem List.mem_cons_self

theorem boxless_escape (s : String) : Boxless (escape s) := (plain_escape s).boxless

end Html

open Html (Boxless boxless_escape)

/-! ### Fragments -/

namespace Template

theorem boxless_diagramScript : Boxless diagramScript := by
  have hopening : Boxless "<script type=\"module\">\n" := .ofList rfl
  have hclosing : Boxless "</script>" := .ofList rfl
  refine Boxless.append (.append (.append (.append (.append (.append hopening ?_) ?_) ?_) ?_) ?_)
    hclosing
  all_goals exact .ofList (by decide)

theorem boxless_renderDiagram {content theme html : String}
    (h : renderDiagram content theme = .ok html) : Boxless html := by
  rw [renderDiagram_eq] at h
  cases h
  have hprint (s : String) : Boxless (Value.string s).print := (plain_print_string s).boxless
  have hstart : Boxless "<pre class=\"mermaid\" data-theme=\"" := .ofList rfl
  have htheme : Boxless "\">" := .ofList rfl
  have hclosing : Boxless "</pre>\n" := .ofList rfl
  exact hstart.append ((hprint theme).append (htheme.append
    ((hprint content).append (hclosing.append boxless_diagramScript))))

theorem boxless_renderAlert {alert : Alert} {html : String} (h : renderAlert alert = .ok html) :
    Boxless html := by
  rw [renderAlert_eq] at h
  cases h
  obtain ⟨hicon, houtline⟩ := plain_alertIcon alert
  have hprint (s : String) : Boxless (Value.string s).print := (plain_print_string s).boxless
  have hstart : Boxless "<div class=\"markdown-alert markdown-alert-" := .ofList rfl
  have hclass : Boxless
      "\" dir=\"auto\"><p class=\"markdown-alert-title\" dir=\"auto\"><svg class=\"octicon " :=
    .ofList (by decide)
  have hname : Boxless "octicon-" := .ofList rfl
  have hbox : Boxless " mr-2\" viewBox=\"0 0 16 16\" version=\"1.1\" " := .ofList rfl
  have hpath : Boxless "width=\"16\" height=\"16\" aria-hidden=\"true\"><path d=\"" := .ofList rfl
  have hend : Boxless "\"></path></svg>" := .ofList rfl
  have hparagraph : Boxless "</p><p>" := .ofList rfl
  have hheader := (((((hclass.append hname).append hicon.boxless).append hbox).append hpath).append
    houtline.boxless).append hend
  simp only [fill, alertOpening, List.map_cons, List.map_nil, String.join_cons, String.join_nil,
    String.append_empty]
  exact hstart.append ((hprint _).append (hheader.append ((hprint _).append hparagraph)))

end Template

namespace Emoji

theorem boxless_markup {emoji : Emoji} (code : String) (h : Html.Plain emoji.entryText) :
    Boxless (emoji.markup code) := by
  cases emoji with
  | glyph text => exact Html.Plain.boxless h
  | image file =>
    have hstart : Boxless "<img class=\"emoji\" title=\"" := .ofList rfl
    have halt : Boxless "\" alt=\"" := .ofList rfl
    have hsrc : Boxless "\" src=\"" := .ofList rfl
    have hend : Boxless "\" height=\"20\" width=\"20\" align=\"absmiddle\">" := .ofList rfl
    have hpath : Boxless (imagePath file) := by
      have hbase : Boxless (imageBase ++ "/") := .append (.ofList rfl) (.ofList rfl)
      exact hbase.append (Html.Plain.boxless h)
    have hlabel := boxless_escape code
    exact (((((hstart.append hlabel).append halt).append hlabel).append hsrc).append hpath).append
      hend

theorem everyTag_pieces (skip : Nat) {cs : List Char} (h : '<' ∉ cs) :
    Html.everyTag Html.opensNoBox ((pieces skip cs).flatMap Piece.markup) := by
  fun_induction pieces skip cs with
  | case1 => rfl
  | case2 skip c rest ih => exact ih fun hmem => h (List.mem_cons_of_mem c hmem)
  | case3 c rest code emoji hcode ih =>
    have hemoji := boxless_markup code (plain_of_lookup (lookup_of_shortcodeAt? hcode))
    rw [List.flatMap_cons]
    exact Html.everyTag_append (fun _ => Html.opensNoBox_append) hemoji
      (ih fun hmem => h (List.mem_cons_of_mem c hmem))
  | case4 c rest _ ih =>
    have hchar : '<' ∉ (Piece.char c).markup := fun hmem =>
      h (List.mem_singleton.mp hmem ▸ List.mem_cons_self)
    rw [List.flatMap_cons]
    exact Html.everyTag_append (fun _ => Html.opensNoBox_append)
      (Html.everyTag_of_not_mem hchar) (ih fun hmem => h (List.mem_cons_of_mem c hmem))

end Emoji

namespace Highlight

/-- A highlighter that writes no tags but those of spans. -/
def Highlighter.OnlySpans (highlighter : Highlighter) : Prop :=
  ∀ language content code, highlighter language content = some code →
    Html.everyTag Html.opensSpan code.toList

theorem Highlighter.OnlySpans.boxless {highlighter : Highlighter} (h : highlighter.OnlySpans)
    {language : Option String} {content code : String}
    (hcode : highlighter language content = some code) : Boxless code :=
  Html.everyTag_mono (fun _ => Html.opensNoBox_of_opensSpan) (h language content code hcode)

theorem onlySpans_highlighter : highlighter.OnlySpans := by
  intro language content code hcode
  rw [highlighter_apply] at hcode
  cases hcode
  unfold spanned
  split
  · rfl
  · have hplain {s : String} (h : Html.Plain s) : Html.everyTag Html.opensSpan s.toList :=
      Html.everyTag_of_not_mem fun hmem => h '<' hmem List.mem_cons_self
    have hstart : Html.everyTag Html.opensSpan "<span class=\"".toList := by decide
    have hend : Html.everyTag Html.opensSpan "\">".toList := by decide
    have hclosing : Html.everyTag Html.opensSpan "</span>".toList := by decide
    have hscope := hplain (plain_classes (plain_scope_resolve language content))
    have hcontent := hplain
      (Html.guards_codeRules.plain_escapeWith (String.join (codeLines content)))
    have happend {cs ds : List Char} := @Html.everyTag_append Html.opensSpan
      (fun _ => Html.opensSpan_append) cs ds
    simp only [String.toList_append]
    exact happend (happend (happend (happend hstart hscope) hend) hcontent) hclosing

end Highlight

/-! ### Default markup -/

namespace Render

open Html (Item)

theorem opensNoBox_of_isTagName {name : String} (h : IsTagName name) :
    Html.opensNoBox name.toList := by
  rcases h with hmem | hheading
  · have hnames : ∀ name ∈ tagNames, Html.opensNoBox name.toList := by decide
    exact hnames name hmem
  · unfold Html.isHeadingName at hheading
    split at hheading
    case h_1 level hname =>
      rw [hname]
      exact Html.opensNoBox_of_ne (by decide) level
    case h_2 => cases hheading

/-- A box begins at the angle bracket of a tag or not at all, and the name shows that it does
not. -/
theorem Known.boxless {item : Item} (h : Known item) : Boxless item.markup := by
  cases item with
  | text content => exact boxless_escape content
  | tag t =>
    have hinside : '<' ∉ (t.inside ++ ">").toList := by
      have hwell : t.WellFormed := h.wellFormed
      have hmem : '<' ∉ t.inside.toList := Html.not_mem_inside hwell (by decide)
      simp [hmem]
    have hopens : Html.opensNoBox (t.inside ++ ">").toList := by
      cases t with
      | opening name attributes =>
        rw [Html.MarkupTag.inside, String.append_assoc, String.toList_append]
        exact Html.opensNoBox_append (opensNoBox_of_isTagName h.1) _
      | closing name =>
        rw [Html.MarkupTag.inside, String.append_assoc, String.toList_append]
        exact Html.opensNoBox_of_ne (by decide) _
    rw [Item.markup, String.append_assoc, Boxless, String.toList_append]
    exact (Bool.and_eq_true _ _).mpr ⟨hopens, Html.everyTag_of_not_mem hinside⟩

/-- A box is written by no element but raw HTML. -/
theorem boxless_markup (doc : Document) (i : Nat) (entering : Bool) (ids : HeadingIds)
    (h : (doc.element i).isHtml = false) :
    Boxless (String.join (markup doc i entering ids).1) := by
  rw [join_markup doc i entering ids h fun _ _ _ _ => rfl]
  have hknown := known_items doc i entering (some (ids.assign (doc.plainText i)).1) (doc.element i)
  generalize items doc i entering (some (ids.assign (doc.plainText i)).1) (doc.element i) = items
    at hknown
  induction items with
  | nil => rfl
  | cons item items ih =>
    obtain ⟨hitem, hitems⟩ := List.forall_mem_cons.mp hknown
    exact hitem.boxless.cons (ih hitems)

/-! ### The hook -/

namespace Github

open Highlight (Highlighter)

theorem boxless_richText (literal : String) : Boxless (richText literal) := by
  have hplain : '<' ∉ (Html.escape literal).toList := fun hmem =>
    Html.plain_escape literal '<' hmem List.mem_cons_self
  rw [Boxless, richText, Emoji.toList_substitute]
  exact Emoji.everyTag_pieces 0 hplain

theorem boxless_codeBlock {highlighter : Highlighter} (h : highlighter.OnlySpans) (theme : String)
    (info : Option String) (literal : String) :
    Boxless (String.join (codeBlock highlighter theme info literal).1) := by
  unfold codeBlock
  split
  · rw [Template.renderDiagram_eq]
    exact (Template.boxless_renderDiagram (Template.renderDiagram_eq literal theme)).single
  · cases hcode : highlighter (language? info) literal with
    | none =>
      rw [highlightedBlock_of_none hcode]
      rfl
    | some code =>
      have hopening : Boxless (codeOpening (language? info)) := by
        cases language? info with
        | none => exact .ofList rfl
        | some language =>
          have hstart : Boxless "<pre class=\"highlight\"><code class=\"language-" := .ofList rfl
          exact (hstart.append (boxless_escape language)).append (.ofList rfl)
      have hclosing : Boxless "</code></pre>\n" := .ofList rfl
      rw [highlightedBlock_of_some hcode]
      exact hopening.cons ((h.boxless hcode).cons hclosing.single)

theorem boxless_paragraph {doc : Document} {i : Nat} {entering : Bool} {pieces : List String}
    {d : Descent} (h : paragraph doc i entering = some (pieces, d)) :
    Boxless (String.join pieces) := by
  obtain ⟨alert, -, heq⟩ := Option.map_eq_some_iff.mp h
  cases entering with
  | true =>
    rw [if_pos rfl, Template.renderAlert_eq] at heq
    cases heq
    exact (Template.boxless_renderAlert (Template.renderAlert_eq alert)).single
  | false =>
    cases heq
    exact .single (.ofList rfl)

/-- A text has a box only if it leads a task. -/
theorem boxless_text {doc : Document} (linked : doc.Linked) {i : Nat} {literal : String}
    (hi : doc.element i = .text literal)
    (htask : ∀ j p checked rest, ¬doc.TaskAt j p i checked rest) :
    Boxless (String.join (text doc i literal)) := by
  by_cases halert : ∃ j alert rest, doc.AlertAt j i alert rest
  · obtain ⟨j, alert, rest, hat⟩ := halert
    rw [Element.text.inj (hi.symm.trans hat.text), text_of_alertAt linked hat]
    exact (boxless_richText rest).single
  · rw [text_of_not_opening linked hi
      (fun j alert rest hat => halert ⟨j, alert, rest, hat⟩) htask]
    exact (boxless_richText literal).single

/-- Of what the hook writes, only the text of a task has a box. -/
theorem boxless_output {highlighter : Highlighter} (h : highlighter.OnlySpans) {theme : String}
    {doc : Document} (linked : doc.Linked) {i : Nat} {entering : Bool} {pieces : List String}
    {d : Descent} (houtput : output highlighter theme doc i entering = some (pieces, d))
    (htask : ∀ j p checked rest, ¬doc.TaskAt j p i checked rest) :
    Boxless (String.join pieces) := by
  unfold output at houtput
  split at houtput
  case h_1 info literal _ =>
    have hpieces : (codeBlock highlighter theme info literal).1 = pieces :=
      congrArg Prod.fst (Option.some.inj houtput)
    rw [← hpieces]
    exact boxless_codeBlock h theme info literal
  case h_2 =>
    unfold blockQuote at houtput
    split at houtput
    · cases houtput
      rfl
    · cases houtput
  case h_3 => exact boxless_paragraph houtput
  case h_4 literal hi =>
    cases houtput
    exact boxless_text linked hi htask
  case h_5 =>
    obtain ⟨task, -, heq⟩ := Option.map_eq_some_iff.mp houtput
    cases heq
    cases entering <;> exact .single (.ofList rfl)
  case h_6 => cases houtput

end Github

end Render

end MarkdownPreview
