import MarkdownPreview.Highlight.Code
import MarkdownPreview.Proofs.Emoji.Scan
import MarkdownPreview.Proofs.Html.Tags
import MarkdownPreview.TaskMarker
import MarkdownPreview.Template.Fragment

/-!
The tags of the fragments that are put into the output as they are: filled templates, text in which
shortcodes are replaced or a token at the start is dropped, and highlighted code.
-/

namespace MarkdownPreview

open Html (Shifts Balanced Plain Reader plain_append_iff)
open Html.Reader (Reads)

/-! ### Templates -/

namespace Template

theorem balanced_diagramScript : Balanced diagramScript := by
  have hopening : Shifts "<script type=\"module\">\n" [] ["script"] := .ofList rfl
  have hclosing : Shifts "</script>" ["script"] [] := rfl
  have hline {s t : String} (hs : Shifts s [] ["script"]) (ht : Shifts t ["script"] ["script"]) :
      Shifts (s ++ t) [] ["script"] := hs.append ht
  -- no line of the script has a tag in it
  refine Shifts.append (hline (hline (hline (hline (hline hopening ?_) ?_) ?_) ?_) ?_) hclosing
  all_goals exact .ofList (by decide)

/-- What a diagram is written as, with its theme and its source escaped. -/
theorem renderDiagram_eq (content theme : String) :
    renderDiagram content theme =
      .ok ("<pre class=\"mermaid\" data-theme=\"" ++ ((Value.string theme).print ++ ("\">" ++
        ((Value.string content).print ++ ("</pre>\n" ++ diagramScript))))) := by
  have hfill : renderDiagram content theme =
      .ok (diagram.fill [("content", .string content), ("theme", .string theme)]) := rfl
  rw [hfill]
  simp only [fill, diagram, List.map_cons, List.map_nil, String.join_cons, String.join_nil,
    String.append_empty]
  rfl

theorem renderAlert_eq (alert : Alert) :
    renderAlert alert = .ok ((alertOpening alert).fill
      [("kind", .string alert.name), ("title", .string alert.title)]) := by
  cases alert <;> rfl

set_option maxRecDepth 2000 in
theorem plain_alertIcon (alert : Alert) :
    Plain (alertIcon alert).1 ∧ Plain (alertIcon alert).2 := by
  cases alert
  all_goals
    simp only [alertIcon, plain_append_iff]
    repeat' apply And.intro
    all_goals exact .ofList (by decide)

theorem plain_print_string (s : String) : Plain (Value.string s).print :=
  Html.guards_templateRules.plain_escapeWith s

theorem balanced_renderDiagram (content theme : String) :
    ∃ html, renderDiagram content theme = .ok html ∧ Balanced html := by
  have hstart : Reads ⟨[], .text⟩ "<pre class=\"mermaid\" data-theme=\""
      ⟨[], .value "pre".toList⟩ := .ofList rfl
  have htheme : Reads ⟨[], .value "pre".toList⟩ "\">" ⟨["pre"], .text⟩ := rfl
  have hclosing : Shifts "</pre>\n" ["pre"] [] := rfl
  refine ⟨_, renderDiagram_eq content theme, ?_⟩
  refine hstart.append (.append (.value (plain_print_string theme)) (htheme.append ?_))
  exact .append (.plainText (plain_print_string content)) (hclosing.append balanced_diagramScript)

theorem shifts_renderAlert (alert : Alert) :
    ∃ html, renderAlert alert = .ok html ∧ Shifts html [] ["p", "div"] := by
  obtain ⟨hicon, houtline⟩ := plain_alertIcon alert
  have hstart : Reads ⟨[], .text⟩ "<div class=\"markdown-alert markdown-alert-"
      ⟨[], .value "div".toList⟩ := .ofList rfl
  have htitle : Reads ⟨[], .value "div".toList⟩
      "\" dir=\"auto\"><p class=\"markdown-alert-title\" dir=\"auto\"><svg class=\"octicon "
      ⟨["p", "div"], .value "svg".toList⟩ := .ofList (by decide)
  have hclass : Reads ⟨["p", "div"], .value "svg".toList⟩ "octicon-"
      ⟨["p", "div"], .value "svg".toList⟩ := .ofList rfl
  have hbox : Reads ⟨["p", "div"], .value "svg".toList⟩
      " mr-2\" viewBox=\"0 0 16 16\" version=\"1.1\" "
      ⟨["p", "div"], .gap "svg".toList⟩ := .ofList rfl
  have hpath : Reads ⟨["p", "div"], .gap "svg".toList⟩
      "width=\"16\" height=\"16\" aria-hidden=\"true\"><path d=\""
      ⟨["svg", "p", "div"], .value "path".toList⟩ := .ofList rfl
  have hsvg : Reads ⟨["svg", "p", "div"], .value "path".toList⟩ "\"></path></svg>"
      ⟨["p", "div"], .text⟩ := .ofList rfl
  have hparagraph : Shifts "</p><p>" ["p", "div"] ["p", "div"] := rfl
  have hheader := (((((htitle.append hclass).append (.value hicon)).append hbox).append
    hpath).append (.value houtline)).append hsvg
  refine ⟨_, renderAlert_eq alert, ?_⟩
  simp only [fill, alertOpening, List.map_cons, List.map_nil, String.join_cons, String.join_nil,
    String.append_empty]
  refine hstart.append (.append (.value (plain_print_string _)) (hheader.append ?_))
  exact .append (.plainText (plain_print_string _)) hparagraph

end Template

/-! ### Emoji -/

namespace Emoji

/-- What the table gives for an emoji: the glyph, or the image's file. -/
def entryText : Emoji → String
  | glyph text => text
  | image file => file

theorem plain_entryText : ∀ entry ∈ table, Plain entry.2.entryText := by
  simp only [table, List.forall_mem_append]
  repeat' apply And.intro
  all_goals
    repeat' refine List.forall_mem_cons.mpr ⟨.ofList rfl, ?_⟩
    exact List.forall_mem_nil _

theorem plain_of_lookup {code : String} {emoji : Emoji} (h : lookup code = some emoji) :
    Plain emoji.entryText := by
  exact plain_entryText _ (Html.mem_of_lookup_eq_some h)

/-- An emoji is plain text or a single tag. -/
theorem balanced_markup {emoji : Emoji} (code : String) (h : Plain emoji.entryText) :
    Balanced (emoji.markup code) := by
  cases emoji with
  | glyph text => exact Reads.plainText h
  | image file =>
    have hstart : Reads ⟨[], .text⟩ "<img class=\"emoji\" title=\"" ⟨[], .value "img".toList⟩ :=
      .ofList rfl
    have halt : Reads ⟨[], .value "img".toList⟩ "\" alt=\"" ⟨[], .value "img".toList⟩ := rfl
    have hsrc : Reads ⟨[], .value "img".toList⟩ "\" src=\"" ⟨[], .value "img".toList⟩ := rfl
    have hend : Reads ⟨[], .value "img".toList⟩
        "\" height=\"20\" width=\"20\" align=\"absmiddle\">" ⟨[], .text⟩ := .ofList rfl
    have hpath : Plain (imagePath file) := by
      simp only [imagePath, imageBase, plain_append_iff]
      exact ⟨⟨.ofList (by decide), .ofList (by decide)⟩, h⟩
    have hlabel := Html.plain_escape code
    have htitle := (hstart.append (.value hlabel)).append halt
    exact (((htitle.append (.value hlabel)).append hsrc).append (.value hpath)).append hend

theorem balanced_pieces (skip : Nat) {cs : List Char} (h : '<' ∉ cs) :
    Balanced (String.ofList ((pieces skip cs).flatMap Piece.markup)) := by
  fun_induction pieces skip cs with
  | case1 => rfl
  | case2 skip c rest ih => exact ih fun hmem => h (List.mem_cons_of_mem c hmem)
  | case3 c rest code emoji hcode ih =>
    -- the characters of the shortcode are skipped after this
    have hemoji := balanced_markup code (plain_of_lookup (lookup_of_shortcodeAt? hcode))
    rw [List.flatMap_cons, String.ofList_append, Piece.markup, String.ofList_toList]
    exact hemoji.append (ih fun hmem => h (List.mem_cons_of_mem c hmem))
  | case4 c rest hnone ih =>
    have hchar : Balanced (String.ofList [c]) := by
      refine Reads.text ?_
      rw [String.toList_ofList]
      intro hmem
      exact h (List.mem_singleton.mp hmem ▸ List.mem_cons_self)
    rw [List.flatMap_cons, String.ofList_append]
    exact hchar.append (ih fun hmem => h (List.mem_cons_of_mem c hmem))

theorem balanced_substitute {text : String} (h : Plain text) : Balanced (substitute text) := by
  have htext : substitute text = String.ofList (substituteChars text.toList) := by
    rw [← toList_substitute, String.ofList_toList]
  rw [htext]
  exact balanced_pieces 0 fun hmem => h '<' hmem List.mem_cons_self

end Emoji

/-! ### Tokens -/

/-- What an alert is read from. -/
theorem Alert.parse?_eq_some {text rest : String} {alert : Alert}
    (h : Alert.parse? text = some (alert, rest)) :
    text = "[!" ++ alert.keyword ++ "]" ++ rest := by
  obtain ⟨⟨found, after⟩, hparse, heq⟩ := Option.map_eq_some_iff.mp h
  cases heq
  unfold Alert.parseChars? at hparse
  split at hparse
  case h_2 => cases hparse
  case h_1 inside htext =>
    split at hparse
    case h_2 => cases hparse
    case h_1 bracket after' hdrop =>
      obtain ⟨found, hfound, heq⟩ := Option.map_eq_some_iff.mp hparse
      cases heq
      have hword := List.find?_some hfound
      have hbracket := List.head?_dropWhile_not (· != ']') inside
      have hinside := List.takeWhile_append_dropWhile (p := (· != ']')) (l := inside)
      rw [hdrop] at hbracket hinside
      simp only [List.head?_cons, bne_eq_false_iff_eq] at hbracket
      rw [← beq_iff_eq.mp hword, hbracket] at hinside
      rw [← String.toList_inj, htext, ← hinside]
      simp

theorem TaskMarker.parse?_eq_some {text rest : String} {checked : Bool}
    (h : TaskMarker.parse? text = some (checked, rest)) :
    ∃ token ∈ ["[ ]", "[x]", "[X]"], text = token ++ rest := by
  obtain ⟨⟨found, after⟩, hparse, heq⟩ := Option.map_eq_some_iff.mp h
  cases heq
  unfold TaskMarker.parseChars? at hparse
  split at hparse
  case h_2 => cases hparse
  case h_1 mark rest htext =>
    have hof {token : String} (htoken : token.toList = ['[', mark, ']']) :
        text = token ++ String.ofList rest := by
      rw [← String.toList_inj, htext, String.toList_append, htoken, String.toList_ofList]
      rfl
    split at hparse
    · cases hparse
      exact ⟨"[ ]", by simp, hof (by simp [*])⟩
    · split at hparse
      case isFalse => cases hparse
      case isTrue hmark =>
        cases hparse
        rcases hmark with hx | hX
        · exact ⟨"[x]", by simp, hof (by simp [hx])⟩
        · exact ⟨"[X]", by simp, hof (by simp [hX])⟩

/-- A token is plain text, so markup stays balanced without it. -/
theorem Html.Balanced.of_plain_append {token rest : String} (h : Balanced (token ++ rest))
    (htoken : Plain token) : Balanced rest :=
  Reads.of_append h (.plainText htoken)

theorem Alert.balanced_rest {text rest : String} {alert : Alert} (h : Balanced text)
    (hparse : Alert.parse? text = some (alert, rest)) : Balanced rest := by
  have hkeyword : Plain alert.keyword := by cases alert <;> exact .ofList (by decide)
  have htoken : Plain ("[!" ++ alert.keyword ++ "]") := by
    simp only [plain_append_iff]
    exact ⟨⟨.ofList (by decide), hkeyword⟩, .ofList (by decide)⟩
  rw [Alert.parse?_eq_some hparse] at h
  exact h.of_plain_append htoken

theorem TaskMarker.balanced_rest {text rest : String} {checked : Bool} (h : Balanced text)
    (hparse : TaskMarker.parse? text = some (checked, rest)) : Balanced rest := by
  obtain ⟨token, hmem, htext⟩ := TaskMarker.parse?_eq_some hparse
  have htokens : ∀ token ∈ ["[ ]", "[x]", "[X]"], Plain token := by decide
  rw [htext] at h
  exact h.of_plain_append (htokens token hmem)

/-! ### Highlighted code -/

namespace Highlight

/-- A highlighter whose code is balanced markup. -/
def Highlighter.WellFormed (highlighter : Highlighter) : Prop :=
  ∀ language content code, highlighter language content = some code → Balanced code

theorem plain_scope : ∀ language ∈ languages, Plain language.scope := by
  unfold languages
  repeat' refine List.forall_mem_cons.mpr ⟨.ofList rfl, ?_⟩
  exact List.forall_mem_nil _

theorem plain_classes {scope : String} (h : Plain scope) : Plain (classes scope) := by
  intro d hd
  rw [classes, String.toList_map, List.mem_map] at hd
  obtain ⟨c, hc, heq⟩ := hd
  rw [← heq]
  split
  · decide
  · exact h c hc

theorem mem_of_findLast? {table : List Language} {test : Language → Bool} {language : Language}
    (h : findLast? table test = some language) : language ∈ table :=
  List.mem_reverse.mp (List.mem_of_find?_eq_some h)

theorem mem_of_get? {table : List Language} {name : String} {language : Language}
    (h : get? table name = some language) : language ∈ table := by
  rcases Option.or_eq_some_iff.mp h with h | ⟨-, h⟩
  · rcases Option.or_eq_some_iff.mp h with h | ⟨-, h⟩
    · exact mem_of_findLast? h
    · exact mem_of_findLast? h
  · exact mem_of_findLast? h

theorem mem_of_analyse? {table : List Language} {content : String} {language : Language}
    (h : analyse? table content = some language) : language ∈ table := by
  obtain ⟨line, -, hline⟩ := Option.bind_eq_some_iff.mp h
  exact mem_of_findLast? hline

theorem plain_scope_plainText : Plain (plainText languages).scope := by
  unfold plainText
  cases h : byName? languages "Plain Text" with
  | some language => exact plain_scope language (mem_of_findLast? h)
  | none => exact .ofList (by decide)

theorem plain_scope_resolve (language : Option String) (content : String) :
    Plain (resolve languages language content).scope := by
  unfold resolve
  cases language with
  | some name =>
    change Plain ((get? languages name).getD (plainText languages)).scope
    cases h : get? languages name with
    | some found => exact plain_scope found (mem_of_get? h)
    | none => exact plain_scope_plainText
  | none =>
    change Plain ((analyse? languages content).getD (plainText languages)).scope
    cases h : analyse? languages content with
    | some found => exact plain_scope found (mem_of_analyse? h)
    | none => exact plain_scope_plainText

theorem wellFormed_highlighter : highlighter.WellFormed := by
  intro language content code hcode
  rw [highlighter_apply] at hcode
  cases hcode
  unfold spanned
  split
  · rfl
  · have hstart : Reads ⟨[], .text⟩ "<span class=\"" ⟨[], .value "span".toList⟩ := rfl
    have hend : Reads ⟨[], .value "span".toList⟩ "\">" ⟨["span"], .text⟩ := rfl
    have hclosing : Reads ⟨["span"], .text⟩ "</span>" ⟨[], .text⟩ := rfl
    have hscope := plain_classes (plain_scope_resolve language content)
    have hcontent := Html.guards_codeRules.plain_escapeWith (String.join (codeLines content))
    exact (((hstart.append (.value hscope)).append hend).append (.plainText hcontent)).append
      hclosing

end Highlight

end MarkdownPreview
