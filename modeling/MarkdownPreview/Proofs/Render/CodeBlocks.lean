import MarkdownPreview.Proofs.Render.Transcript
import MarkdownPreview.Proofs.Html.Reading
import MarkdownPreview.Proofs.Text.Search

/-!
Code as it is read from its block. Default markup, highlighted code and diagrams escape it in three
ways; whichever it was, what is seen of the block is the code, whatever the code looks like.
-/

namespace MarkdownPreview

open Html (SeenAs references undoes_references visibleText)
open Html.Item (opening closing)

namespace Highlight

/-- A writer that puts the code of a table's languages into one element, escaped, and writes
nothing for no code. The names of the element's classes do not end a tag. -/
def LineWriter.WritesOneSpan {τ : Type} (writer : LineWriter τ) (table : List Language) : Prop :=
  ∀ language content, ∃ names, '>' ∉ names.toList ∧
    ∀ code, writer.write? (resolve table language content) code = some (spanned names code)

theorem writesOneSpan_oneSpan : oneSpan.WritesOneSpan languages := by
  intro language content
  have hplain := plain_classes (plain_scope_resolve language content)
  exact ⟨_, fun hmem => hplain '>' hmem (by decide), write?_oneSpan _⟩

theorem seenAs_spanned {names : String} (h : '>' ∉ names.toList) (code : List String) :
    SeenAs references (spanned names code) (String.join code) := by
  unfold spanned
  split
  case isTrue hempty =>
    rw [hempty]
    exact .empty
  case isFalse =>
    have hinside : '>' ∉ ("span class=\"" ++ names ++ "\"").toList := by simp [h]
    have hopening : SeenAs references ("<span class=\"" ++ names ++ "\">") "" := by
      have htag : "<span class=\"" ++ names ++ "\">" =
          "<" ++ ("span class=\"" ++ names ++ "\"") ++ ">" := by
        rw [← String.toList_inj]
        simp
      rw [htag]
      exact .tag hinside
    have hcode : SeenAs references (Html.escapeWith Html.codeRules (String.join code))
        (String.join code) :=
      .escapeWith (undoes_references (by decide)) Html.guards_codeRules _
    have hclosing : SeenAs references "</span>" "" := @SeenAs.tag _ "/span" (by decide)
    simpa using (hopening.append hcode).append hclosing

/-- Written line by line, code is seen as it is. -/
theorem exists_highlightWith_eq {τ : Type} {writer : LineWriter τ} {table : List Language}
    (h : writer.WritesOneSpan table) (language : Option String) (content : String) :
    ∃ code, highlightWith writer table language content = some code ∧
      SeenAs references code content := by
  obtain ⟨names, hnames, hwrite⟩ := h language content
  have hseen := seenAs_spanned hnames (codeLines content)
  rw [join_codeLines] at hseen
  exact ⟨_, hwrite (codeLines content), hseen⟩

end Highlight

namespace Render

open Highlight (LineWriter Language highlightWith oneSpan languages)
open Github (highlightedBlock hookWith)

/-! ### Blocks of code -/

theorem Github.codeOpening_eq (language : Option String) :
    Github.codeOpening language = (opening "pre" [⟨"class", "highlight"⟩]).markup ++
      (opening "code" (languageAttribute language)).markup := by
  have hhighlight : Html.escape "highlight" = "highlight" := Html.escape_ofList rfl
  cases language with
  | none =>
    change "<pre class=\"highlight\"><code>" = _
    simp [languageAttribute, Html.Attribute.markup, hhighlight]
  | some language =>
    change "<pre class=\"highlight\"><code class=\"language-" ++ Html.escape language ++ "\">" = _
    have hlanguage : Html.escape "language-" = "language-" := Html.escape_ofList rfl
    rw [← String.toList_inj]
    simp [languageAttribute, Html.Attribute.markup, Html.escape_append, hhighlight, hlanguage]

theorem seenAs_highlightOpening (language : Option String) :
    SeenAs references (Github.codeOpening language) "" := by
  have hpre : (opening "pre" [⟨"class", "highlight"⟩]).WellFormed := by simp +decide
  have hcode : (opening "code" (languageAttribute language)).WellFormed :=
    Html.wellFormed_opening.mpr ⟨by decide, keysNamed_languageAttribute language⟩
  have hrules : Html.Undoes references Html.textRules := undoes_references (by decide)
  rw [Github.codeOpening_eq]
  exact (Html.seenAs_markup hrules hpre).append (Html.seenAs_markup hrules hcode)

theorem seenAs_codeClosing : SeenAs references "</code></pre>\n" "\n" := by
  have hitems : ∀ item ∈ [closing "code", closing "pre", .text "\n"], item.WellFormed := by
    simp +decide
  simpa using Html.seenAs_join_markup (undoes_references (by decide)) hitems

/-- The default markup of a code block. -/
theorem visibleText_pieces_codeBlock (doc : Document) (i : Nat) (entering : Bool)
    (info : Option String) (literal : String) :
    visibleText (String.join (pieces doc i entering (.codeBlock info literal))) =
      literal ++ "\n" := by
  have hitems : ∀ item ∈ items doc i entering none (.codeBlock info literal), item.WellFormed :=
    fun item hitem => (known_items doc i entering none _ item hitem).wellFormed
  have hseen := Html.seenAs_join_markup (undoes_references (by decide)) hitems
  rw [← join_pieces doc i entering none rfl (fun _ _ _ h => by cases h)] at hseen
  rw [hseen.visibleText_eq]
  simp [items]

theorem visibleText_highlightedBlock {τ : Type} {writer : LineWriter τ} {table : List Language}
    (h : writer.WritesOneSpan table) (info : Option String) (literal : String) :
    ∃ html, highlightedBlock (highlightWith writer table) info literal = (html, .children) ∧
      visibleText (String.join html) = literal ++ "\n" := by
  obtain ⟨code, hcode, hseen⟩ := Highlight.exists_highlightWith_eq h (language? info) literal
  have hblock := ((seenAs_highlightOpening (language? info)).append hseen).append
    seenAs_codeClosing
  refine ⟨_, Github.highlightedBlock_of_some hcode, ?_⟩
  simpa [String.append_assoc] using hblock.visibleText_eq

/-! ### Diagrams -/

/-- The source of a diagram, as a reader of its block finds it: from the end of the tag that opens
the block up to the next tag that closes one. -/
def diagramSource? (html : String) : Option String :=
  (((Text.after? "<pre " html).bind (Text.after? ">")).bind (Text.before? "</pre>")).map
    Html.decode

theorem diagramSource?_append {attributes : String} (h : '>' ∉ attributes.toList)
    (source rest : String) :
    diagramSource? ("<pre " ++ (attributes ++ (">" ++
      (Html.escapeWith Html.templateRules source ++ ("</pre>" ++ rest))))) = some source := by
  set written := Html.escapeWith Html.templateRules source with hwritten
  have hbracket : '<' ∉ written.toList :=
    Html.guards_templateRules.not_mem_escapeWith (by decide) source
  have hblock : Text.after? "<pre " ("<pre " ++ (attributes ++ (">" ++ (written ++
      ("</pre>" ++ rest))))) = some (attributes ++ (">" ++ (written ++ ("</pre>" ++ rest)))) := by
    rw [← String.empty_append (s := "<pre " ++ _)]
    exact Text.after?_of_avoids .empty _
  have htag : Text.after? ">" (attributes ++ (">" ++ (written ++ ("</pre>" ++ rest)))) =
      some (written ++ ("</pre>" ++ rest)) :=
    Text.after?_of_avoids (.of_not_mem h []) _
  have hend : Text.before? "</pre>" (written ++ ("</pre>" ++ rest)) = some written :=
    Text.before?_of_avoids (.of_not_mem hbracket _) rest
  rw [diagramSource?, hblock, Option.bind_some, htag, Option.bind_some, hend, Option.map_some,
    hwritten, Html.decode_escapeWith (by decide)]

/-- Neither the theme nor the source can end the block, and neither is read as a template. -/
theorem diagramSource?_renderDiagram (source theme : String) :
    ∃ html, Template.renderDiagram source theme = .ok html ∧
      diagramSource? html = some source := by
  have hattributes : '>' ∉ ("class=\"mermaid\" data-theme=\"" ++
      Html.escapeWith Html.templateRules theme ++ "\"").toList := by
    have htheme : '>' ∉ (Html.escapeWith Html.templateRules theme).toList :=
      Html.guards_templateRules.not_mem_escapeWith (by decide) theme
    rw [Html.toList_escapeWith] at htheme
    simp [htheme]
  refine ⟨_, Template.renderDiagram_eq source theme, ?_⟩
  rw [← diagramSource?_append hattributes source ("\n" ++ Template.diagramScript)]
  refine congrArg diagramSource? ?_
  rw [← String.toList_inj]
  simp [Template.Value.print]

/-! ### Visits -/

section

variable {σ τ : Type}

/-- Entering a node completely writes markup of a kind, on a stream that keeps its text, and the
walk goes on as told. -/
def EnteringWrites (stream : Stream σ) (text : σ → String) (hook : Hook σ) (doc : Document)
    (i : Nat) (d : Descent) (Kind : String → Prop) : Prop :=
  ∀ ids s, ∃ html s', visit stream hook doc i true ids s = (none, d, ids, s') ∧
    text s' = text s ++ html ∧ Kind html

variable {stream : Stream σ} {text : σ → String} {doc : Document} {i : Nat} {d : Descent}
  {written : List String} {Kind : String → Prop}

theorem enteringWrites_noHook (hstream : stream.Keeps text)
    (hmarkup : ∀ ids, markup doc i true ids = (written, ids))
    (hdescent : descent true (doc.element i) = d) (h : Kind (String.join written)) :
    EnteringWrites stream text noHook doc i d Kind := by
  intro ids s
  obtain ⟨s', hput, htext⟩ := hstream.putAll written s
  refine ⟨_, s', ?_, htext, h⟩
  simp only [visit, noHook, Answer.declined, hmarkup, hput, hdescent]

theorem enteringWrites_hookWith (hstream : stream.Keeps text)
    {highlighter : Highlight.Highlighter} {theme : String}
    (houtput : Github.output highlighter theme doc i true = some (written, d))
    (h : Kind (String.join written)) :
    EnteringWrites stream text (hookWith highlighter stream theme) doc i d Kind := by
  intro ids s
  obtain ⟨s', hput, htext⟩ := hstream.putAll written s
  refine ⟨_, s', ?_, htext, h⟩
  simp only [visit, hookWith, houtput, hput]

/-- A block of code is seen as its code and a line feed, written by default and highlighted, and
the source of a diagram is read as the code, whatever theme is written before it. -/
theorem code_is_seen (hstream : stream.Keeps text) {writer : LineWriter τ} {table : List Language}
    (hwriter : writer.WritesOneSpan table) {info : Option String} {literal : String}
    (hi : doc.element i = .codeBlock info literal) :
    EnteringWrites stream text noHook doc i .children (visibleText · = literal ++ "\n") ∧
      visibleText (String.join (highlightedBlock (highlightWith writer table) info literal).1) =
        literal ++ "\n" ∧
      ∀ theme,
        (info ≠ some "mermaid" →
          EnteringWrites stream text (hookWith (highlightWith writer table) stream theme) doc i
            .children (visibleText · = literal ++ "\n")) ∧
        (info = some "mermaid" →
          EnteringWrites stream text (hookWith (highlightWith writer table) stream theme) doc i
            .skip (diagramSource? · = some literal)) := by
  obtain ⟨pieces, hpieces, hseen⟩ := visibleText_highlightedBlock hwriter info literal
  have houtput (theme : String) :
      Github.output (highlightWith writer table) theme doc i true =
        some (Github.codeBlock (highlightWith writer table) theme info literal) := by
    rw [Github.output, hi]
  refine ⟨?default, ?block, fun theme => ⟨fun hinfo => ?highlighted, fun hinfo => ?diagram⟩⟩
  case default =>
    refine enteringWrites_noHook hstream (fun ids => ?_) (by rw [hi]; rfl)
      (visibleText_pieces_codeBlock doc i true info literal)
    rw [markup, hi]
  case block => rw [hpieces, hseen]
  case highlighted =>
    refine enteringWrites_hookWith hstream ?_ hseen
    rw [houtput, Github.codeBlock, Github.diagramLanguage, if_neg hinfo, hpieces]
  case diagram =>
    obtain ⟨html, hrender, hsource⟩ := diagramSource?_renderDiagram literal theme
    have hdiagram : Github.output (highlightWith writer table) theme doc i true =
        some ([html], .skip) := by
      rw [houtput, Github.codeBlock, Github.diagramLanguage, if_pos hinfo, hrender]
      rfl
    refine enteringWrites_hookWith hstream hdiagram ?_
    rw [join_singleton]
    exact hsource

/-- A diagram whose source and theme imitate what stands around them, and code that does so. -/
theorem code_is_seen_imitating_markup :
    let doc := Document.ofEvents
      [.start (.fencedCode "mermaid"), .text "</pre>\x7b\x7b&lt;", .finish .codeBlock,
        .start .indentedCode, .text "</code>&#39;\n", .finish .codeBlock]
    let hook := hookWith (highlightWith oneSpan languages) Stream.buffer "\"></pre>"
    doc.element 1 = .codeBlock (some "mermaid") "</pre>\x7b\x7b&lt;" ∧
      doc.element 2 = .codeBlock none "</code>&#39;\n" ∧
      EnteringWrites Stream.buffer id hook doc 1 .skip
        (diagramSource? · = some "</pre>\x7b\x7b&lt;") ∧
      EnteringWrites Stream.buffer id hook doc 2 .children
        (visibleText · = "</code>&#39;\n" ++ "\n") ∧
      EnteringWrites Stream.buffer id noHook doc 2 .children
        (visibleText · = "</code>&#39;\n" ++ "\n") := by
  intro doc hook
  have hdiagram : doc.element 1 = .codeBlock (some "mermaid") "</pre>\x7b\x7b&lt;" := by
    decide +kernel
  have hcode : doc.element 2 = .codeBlock none "</code>&#39;\n" := by
    decide +kernel
  have hwriter := Highlight.writesOneSpan_oneSpan
  obtain ⟨-, -, hshown⟩ := code_is_seen keeps_buffer hwriter hdiagram
  obtain ⟨hdefault, -, hhighlighted⟩ := code_is_seen keeps_buffer hwriter hcode
  exact ⟨hdiagram, hcode, (hshown "\"></pre>").2 rfl, (hhighlighted "\"></pre>").1 nofun,
    hdefault⟩

end

end Render

end MarkdownPreview
