import MarkdownPreview.Proofs.Render.Transcript

/-!
What a theme can change. At every visit the hook decides by the document alone what to write, and
the theme is written in one place only: as an attribute of a diagram. So a document is written as
texts that do not depend on the theme, with the theme between them once for each diagram.
-/

namespace MarkdownPreview

open Html (escapeWith templateRules)

/-- A code block that is shown as a diagram. -/
def Element.isDiagram : Element → Bool
  | codeBlock info _ => info = some "mermaid"
  | _ => false

theorem Element.isContainer_of_isDiagram {e : Element} (h : e.isDiagram) :
    e.isContainer = false := by
  cases e with
  | codeBlock info literal => rfl
  | _ => cases h

namespace Render

open Highlight (Highlighter)
open Github (output hookWith)

/-- The diagrams that a walk visits. -/
def visitedDiagrams (doc : Document) : List Nat :=
  (List.range doc.size).filter fun i => .enter i ∈ tour doc ∧ (doc.element i).isDiagram

/-- Texts between which a theme is written as an attribute of a diagram. -/
def AroundTheme (before after : String) : Prop :=
  "<pre class=\"mermaid\" data-theme=\"".toList <:+ before.toList ∧ "\">".toList <+: after.toList

/-- Of what is written for a theme, all but the attributes of so many diagrams does not depend on
the theme. -/
def OnlyInDiagrams (written : String → String) (diagrams : Nat) : Prop :=
  ∃ between : List String, between.length = diagrams + 1 ∧ between.IsChain AroundTheme ∧
    ∀ theme, written theme = (escapeWith templateRules theme).intercalate between

theorem isChain_aroundTheme_append {first : String} {rest : List String}
    (h : (first :: rest).IsChain AroundTheme) (html : String) :
    ((html ++ first) :: rest).IsChain AroundTheme := by
  cases rest with
  | nil => exact .singleton _
  | cons second rest =>
    obtain ⟨⟨hbefore, hafter⟩, hrest⟩ := List.isChain_cons_cons.mp h
    have hends : first.toList <:+ (html ++ first).toList := by
      rw [String.toList_append]
      exact List.suffix_append _ _
    exact List.isChain_cons_cons.mpr ⟨⟨hbefore.trans hends, hafter⟩, hrest⟩

namespace OnlyInDiagrams

variable {written : String → String} {diagrams : Nat}

theorem empty : OnlyInDiagrams (fun _ => "") 0 :=
  ⟨[""], rfl, .singleton _, fun _ => String.intercalate_singleton.symm⟩

theorem append (h : OnlyInDiagrams written diagrams) (html : String) :
    OnlyInDiagrams (fun theme => html ++ written theme) diagrams := by
  obtain ⟨_ | ⟨first, rest⟩, hlength, hchain, hwritten⟩ := h
  · cases hlength
  · refine ⟨(html ++ first) :: rest, hlength, isChain_aroundTheme_append hchain html, ?_⟩
    intro theme
    rw [String.intercalate_cons_append, ← hwritten]

/-- A diagram in front has a place for the theme. -/
theorem diagram (h : OnlyInDiagrams written diagrams) (source : String) :
    ∃ html : String → String, (∀ theme, Template.renderDiagram source theme = .ok (html theme)) ∧
      OnlyInDiagrams (fun theme => html theme ++ written theme) (diagrams + 1) := by
  refine ⟨_, Template.renderDiagram_eq source, ?_⟩
  obtain ⟨_ | ⟨first, rest⟩, hlength, hchain, hwritten⟩ := h
  · cases hlength
  · let block := (Template.Value.string source).print ++ ("</pre>\n" ++ Template.diagramScript)
    refine ⟨"<pre class=\"mermaid\" data-theme=\"" :: ("\">" ++ (block ++ first)) :: rest,
      congrArg (· + 1) hlength, ?_, fun theme => ?_⟩
    · refine List.isChain_cons_cons.mpr ⟨⟨List.suffix_rfl, ?_⟩, ?_⟩
      · rw [String.toList_append]
        exact List.prefix_append _ _
      · exact isChain_aroundTheme_append (isChain_aroundTheme_append hchain block) _
    · rw [String.intercalate_cons_cons, String.intercalate_cons_append,
        String.intercalate_cons_append, ← hwritten]
      simp only [block, Template.Value.print, String.append_assoc]

end OnlyInDiagrams

/-! ### What the hook writes -/

section

variable {highlighter : Highlighter} {doc : Document} {i : Nat}

/-- The hook looks at the theme only where a diagram is. -/
theorem output_congr_theme (h : (doc.element i).isDiagram = false) (theme theme' : String)
    (entering : Bool) :
    output highlighter theme doc i entering = output highlighter theme' doc i entering := by
  unfold output
  split
  case h_1 info literal hi =>
    have hinfo : info ≠ some Github.diagramLanguage := by
      rw [hi] at h
      exact of_decide_eq_false h
    rw [Github.codeBlock, Github.codeBlock, if_neg hinfo, if_neg hinfo]
  all_goals rfl

theorem output_of_isDiagram (highlighter : Highlighter) (h : (doc.element i).isDiagram) :
    ∃ source, ∀ theme entering, output highlighter theme doc i entering =
      some (Github.fragmentOutput (Template.renderDiagram source theme) .skip) := by
  cases hi : doc.element i with
  | codeBlock info literal =>
    rw [hi] at h
    have hinfo : info = some Github.diagramLanguage := of_decide_eq_true h
    refine ⟨literal, fun theme entering => ?_⟩
    rw [output, hi]
    simp only [Github.codeBlock, if_pos hinfo]
  | _ =>
    rw [hi] at h
    cases h

theorem countsAfter_output (highlighter : Highlighter) (doc : Document) (theme theme' : String) :
    Script.countsAfter (output highlighter theme) doc =
      Script.countsAfter (output highlighter theme') doc := by
  funext ids v
  unfold Script.countsAfter
  cases hdiagram : (doc.element v.node).isDiagram with
  | true =>
    obtain ⟨source, houtput⟩ := output_of_isDiagram highlighter hdiagram
    rw [houtput, houtput]
  | false => rw [output_congr_theme hdiagram theme theme']

/-- One place for the theme with each visit to a diagram. -/
theorem onlyInDiagrams_entries (highlighter : Highlighter) (doc : Document) (ids : HeadingIds)
    (visits : List Visit) :
    OnlyInDiagrams
      (fun theme => String.join
        ((Script.entries (output highlighter theme) doc ids visits).map Entry.html))
      (visits.countP fun v => (doc.element v.node).isDiagram) := by
  induction visits generalizing ids with
  | nil => exact .empty
  | cons v rest ih =>
    have hrest := ih (Script.countsAfter (output highlighter "") doc ids v)
    have hparts (theme : String) :
        String.join ((Script.entries (output highlighter theme) doc ids (v :: rest)).map
            Entry.html) =
          (Script.entry (output highlighter theme) doc ids v).html ++
            String.join ((Script.entries (output highlighter theme) doc
              (Script.countsAfter (output highlighter "") doc ids v) rest).map Entry.html) := by
      rw [Script.entries, List.map_cons, String.join_cons,
        countsAfter_output highlighter doc theme ""]
    simp only [hparts]
    rw [List.countP_cons]
    cases hdiagram : (doc.element v.node).isDiagram with
    | true =>
      obtain ⟨source, houtput⟩ := output_of_isDiagram highlighter hdiagram
      obtain ⟨html, hrender, honly⟩ := hrest.diagram source
      have hentry (theme : String) :
          (Script.entry (output highlighter theme) doc ids v).html = html theme := by
        have htaken : output highlighter theme doc v.node v.entering =
            some ([html theme], .skip) := by
          rw [houtput, hrender]
          rfl
        rw [Script.html_entry_of_taken htaken, join_singleton]
      simp only [hentry]
      exact honly
    | false =>
      have hentry (theme : String) : (Script.entry (output highlighter theme) doc ids v).html =
          (Script.entry (output highlighter "") doc ids v).html := by
        rw [Script.entry, Script.entry, output_congr_theme hdiagram theme ""]
      simp only [hentry]
      exact hrest.append _

/-- A diagram is entered, and never left. -/
theorem eq_enter_of_isDiagram {v : Visit} (hv : v ∈ tour doc)
    (h : (doc.element v.node).isDiagram) : v = .enter v.node := by
  cases v with
  | enter i => rfl
  | leave i =>
    have hleaf : (doc.element i).isContainer = false := Element.isContainer_of_isDiagram h
    rw [isContainer_of_leave_mem _ _ hv] at hleaf
    cases hleaf

theorem lt_size_of_isDiagram (h : (doc.element i).isDiagram) : i < doc.size := by
  refine Nat.lt_of_not_le fun hle => ?_
  rw [Document.element_of_size_le hle] at h
  cases h

/-- There are as many visits to diagrams as diagrams that are visited. -/
theorem countP_tour (h : doc.Preorder [0] (List.range doc.size)) :
    (tour doc).countP (fun v => (doc.element v.node).isDiagram) =
      (visitedDiagrams doc).length := by
  have hnodup : (((tour doc).filter fun v => (doc.element v.node).isDiagram).map
      Visit.node).Nodup := by
    refine List.Nodup.map_on ?_ ((nodup_tour h).filter _)
    intro v hv w hw heq
    rw [List.mem_filter] at hv hw
    rw [eq_enter_of_isDiagram hv.1 hv.2, eq_enter_of_isDiagram hw.1 hw.2, heq]
  have hperm : (((tour doc).filter fun v => (doc.element v.node).isDiagram).map
      Visit.node).Perm (visitedDiagrams doc) := by
    refine (List.perm_ext_iff_of_nodup hnodup (List.nodup_range.filter _)).mpr fun i => ?_
    simp only [List.mem_map, List.mem_filter, List.mem_range, decide_eq_true_eq]
    constructor
    · rintro ⟨v, ⟨hv, hdiagram⟩, rfl⟩
      exact ⟨lt_size_of_isDiagram hdiagram, eq_enter_of_isDiagram hv hdiagram ▸ hv, hdiagram⟩
    · rintro ⟨-, hvisited, hdiagram⟩
      exact ⟨.enter i, ⟨hvisited, hdiagram⟩, rfl⟩
  rw [List.countP_eq_length_filter, ← hperm.length_eq, List.length_map]

end

/-! ### Whole documents -/

theorem finalCounts_output (highlighter : Highlighter) (doc : Document) (ids : HeadingIds)
    (theme theme' : String) :
    Script.finalCounts (output highlighter theme) doc ids =
      Script.finalCounts (output highlighter theme') doc ids := by
  rw [Script.finalCounts, Script.finalCounts, countsAfter_output highlighter doc theme theme']

/-- Without diagrams everything is written alike, piece by piece. -/
theorem entries_congr_theme (highlighter : Highlighter) {doc : Document} {visits : List Visit}
    (h : ∀ v ∈ visits, (doc.element v.node).isDiagram = false) (ids : HeadingIds)
    (theme theme' : String) :
    Script.entries (output highlighter theme) doc ids visits =
      Script.entries (output highlighter theme') doc ids visits := by
  induction visits generalizing ids with
  | nil => rw [Script.entries, Script.entries]
  | cons v rest ih =>
    obtain ⟨hv, hrest⟩ := List.forall_mem_cons.mp h
    rw [Script.entries, Script.entries, Script.entry, Script.entry,
      output_congr_theme hv theme theme', countsAfter_output highlighter doc theme theme',
      ih hrest]

theorem render_congr_theme {σ : Type} {stream : Stream σ} {text : σ → String}
    (hstream : stream.Keeps text) (highlighter : Highlighter) (events : List Event)
    (h : visitedDiagrams (.ofEvents events) = []) (ids : HeadingIds) (theme theme' : String)
    (s : σ) :
    render stream (hookWith highlighter stream theme) (.ofEvents events) ids s =
      render stream (hookWith highlighter stream theme') (.ofEvents events) ids s := by
  have hnone : ∀ v ∈ tour (.ofEvents events),
      ((Document.ofEvents events).element v.node).isDiagram = false := by
    have hcount := countP_tour (Document.preorder_ofEvents events)
    rw [h, List.length_nil, List.countP_eq_zero] at hcount
    exact fun v hv => Bool.not_eq_true _ ▸ hcount v hv
  have hsame := entries_congr_theme highlighter hnone ids theme theme'
  obtain ⟨s', hplay, -⟩ := play_of_keeps hstream
    (Script.transcript (output highlighter theme') (.ofEvents events) ids) s
  have hrun (theme : String) := render_eq_perform stream events
    (keepsTour_output highlighter theme (.ofEvents events)) ids s
  obtain ⟨ids₁, hrender₁, hids₁⟩ := hrun theme
  obtain ⟨ids₂, hrender₂, hids₂⟩ := hrun theme'
  rw [Script.transcript, hsame, ← Script.transcript] at hrender₁ hids₁
  rw [hplay] at hids₁ hids₂
  rw [← hook_output, ← hook_output, hrender₁, hrender₂, hids₁ rfl, hids₂ rfl,
    finalCounts_output highlighter _ ids theme theme']

/-- The theme is written once for each diagram that is visited, as an attribute of it, and changes
nothing else: what stands around it and the heading counts are the same for all themes. -/
theorem theme_only_in_diagrams (highlighter : Highlighter) (events : List Event)
    (ids : HeadingIds) :
    (∃ (between : List String) (ids' : HeadingIds),
      between.length = (visitedDiagrams (.ofEvents events)).length + 1 ∧
      between.IsChain AroundTheme ∧
      ∀ {σ : Type} (stream : Stream σ) (text : σ → String), stream.Keeps text → ∀ theme s,
        ∃ s', render stream (hookWith highlighter stream theme) (.ofEvents events) ids s =
            (none, ids', s') ∧
          text s' = text s ++ (escapeWith templateRules theme).intercalate between) ∧
    (visitedDiagrams (.ofEvents events) = [] →
      ∀ {σ : Type} (stream : Stream σ) (text : σ → String), stream.Keeps text →
        ∀ theme theme' s,
          render stream (hookWith highlighter stream theme) (.ofEvents events) ids s =
            render stream (hookWith highlighter stream theme') (.ofEvents events) ids s) := by
  obtain ⟨between, hlength, hchain, hwritten⟩ :=
    onlyInDiagrams_entries highlighter (.ofEvents events) ids (tour (.ofEvents events))
  rw [countP_tour (Document.preorder_ofEvents events)] at hlength
  refine ⟨⟨between, Script.finalCounts (output highlighter "") (.ofEvents events) ids, hlength,
    hchain, fun stream text hstream theme s => ?_⟩, fun h σ stream text hstream theme theme' =>
      render_congr_theme hstream highlighter events h ids theme theme'⟩
  obtain ⟨s', hrender, htext⟩ := render_eq_transcript hstream events
    (keepsTour_output highlighter theme (.ofEvents events)) ids s
  refine ⟨s', ?_, ?_⟩
  · rw [← hook_output, hrender, finalCounts_output highlighter _ ids theme ""]
  · rw [htext, ← hwritten]
    rfl

/-- Two diagrams beside one in an image, which is not visited, and none in the other document. -/
theorem theme_in_two_diagrams :
    (∃ (between : List String) (ids' : HeadingIds),
      between.length = 3 ∧ between.IsChain AroundTheme ∧
      ∀ theme, ∃ s', render Stream.buffer (hookWith Highlight.highlighter Stream.buffer theme)
          (.ofEvents
            [.start (.fencedCode "mermaid"), .text "a-->b", .finish .codeBlock,
              .start (.image "i" ""), .start (.fencedCode "mermaid"), .finish .codeBlock,
              .finish .image,
              .start .item, .start (.fencedCode "mermaid"), .finish .codeBlock, .finish .item])
          {} "" = (none, ids', s') ∧
        s' = (escapeWith templateRules theme).intercalate between) ∧
    ∀ theme theme',
      render Stream.buffer (hookWith Highlight.highlighter Stream.buffer theme)
          (.ofEvents [.start (.fencedCode "mermaid x"), .text "a-->b", .finish .codeBlock])
          {} "" =
        render Stream.buffer (hookWith Highlight.highlighter Stream.buffer theme')
          (.ofEvents [.start (.fencedCode "mermaid x"), .text "a-->b", .finish .codeBlock])
          {} "" := by
  have htwo : (visitedDiagrams (.ofEvents
      [.start (.fencedCode "mermaid"), .text "a-->b", .finish .codeBlock,
        .start (.image "i" ""), .start (.fencedCode "mermaid"), .finish .codeBlock,
        .finish .image,
        .start .item, .start (.fencedCode "mermaid"), .finish .codeBlock,
        .finish .item])).length = 2 := by
    decide +kernel
  have hnone : visitedDiagrams (.ofEvents
      [.start (.fencedCode "mermaid x"), .text "a-->b", .finish .codeBlock]) = [] := by
    decide +kernel
  obtain ⟨⟨between, ids', hlength, hchain, hrender⟩, -⟩ :=
    theme_only_in_diagrams Highlight.highlighter
      [.start (.fencedCode "mermaid"), .text "a-->b", .finish .codeBlock,
        .start (.image "i" ""), .start (.fencedCode "mermaid"), .finish .codeBlock,
        .finish .image,
        .start .item, .start (.fencedCode "mermaid"), .finish .codeBlock, .finish .item] {}
  rw [htwo] at hlength
  refine ⟨⟨between, ids', hlength, hchain, fun theme => ?_⟩, fun theme theme' => ?_⟩
  · obtain ⟨s', hs', htext⟩ := hrender Stream.buffer id keeps_buffer theme ""
    exact ⟨s', hs', htext.trans String.empty_append⟩
  · exact (theme_only_in_diagrams Highlight.highlighter _ {}).2 hnone Stream.buffer id
      keeps_buffer theme theme' ""

end Render

end MarkdownPreview
