import MarkdownPreview.Page
import MarkdownPreview.Proofs.Highlight.Stylesheet
import MarkdownPreview.Proofs.Html.References

/-!
Pages read back. The theme and the title are escaped and no article begins in the stylesheets, so
none of them is taken for the markup that comes after it. The content may be any text: it is all
that stands between the first opening and the last closing tag of the article.
-/

namespace MarkdownPreview.Page

open Html (escapeWith templateRules Plain)
open Highlight (ColorScheme Sheets avoids_of_plain)
open Text (Avoids)

/-- Stylesheets in which no article begins. -/
def NoArticle (sheets : Sheets) : Prop :=
  ∀ scheme styles, ColorScheme.styles sheets scheme = .ok styles →
    ¬"<article class=\"markdown-body\">".toList <:+: styles.toList

/-- The name of the theme that a page declares. -/
def themeName? (page : String) : Option String :=
  (Text.after? "data-theme=\"" page).bind (Text.before? "\"")

/-- The title of a page, from the first tag that opens one up to the next that closes it. -/
def titleText? (page : String) : Option String :=
  ((Text.after? "<title>" page).bind (Text.before? "</title>")).map Html.decode

/-- What stands in the article of a page, as it is. -/
def articleContent? (page : String) : Option String :=
  (Text.after? "<article class=\"markdown-body\">\n" page).bind (Text.beforeLast? "\n</article>")

/-- A page is written part by part, and no part is looked into. -/
theorem fill_eq (title : String) (theme : Theme) (styles content : String) :
    fill title theme styles content =
      beforeTheme ++ theme.name ++ beforeTitle ++ escapeWith templateRules title ++ beforeStyles ++
        styles ++ beforeContent ++ content ++ afterContent := by
  let context : Template.Context :=
    [("title", .string title), ("theme", .string theme.name), ("highlight_css", .markup styles),
      ("content", .markup content)]
  have htext (s : String) : Template.Part.fill context (.text s) = s := rfl
  have htitle : Template.Part.fill context (.slot "title") = escapeWith templateRules title := rfl
  have htheme : Template.Part.fill context (.slot "theme") = theme.name := by
    cases theme <;> rfl
  have hstyles : Template.Part.fill context (.slot "highlight_css") = styles := rfl
  have hcontent : Template.Part.fill context (.slot "content") = content := rfl
  change template.fill context = _
  simp only [template, Template.fill, List.map_cons, List.map_nil, String.join_cons,
    String.join_nil, String.append_empty, String.append_assoc, htext, htitle, htheme, hstyles,
    hcontent]

theorem render_of_styles {sheets : Sheets} {theme : Theme} {styles : String}
    (h : highlightStyles sheets theme = .ok styles) (title content : String) :
    render sheets title theme content = .ok (fill title theme styles content) := by
  rw [render, h]
  rfl

/-- There is a page where there are styles for it. -/
theorem render_eq_ok_iff {sheets : Sheets} {title : String} {theme : Theme}
    {content page : String} :
    render sheets title theme content = .ok page ↔
      ∃ styles, highlightStyles sheets theme = .ok styles ∧
        page = fill title theme styles content := by
  cases hstyles : highlightStyles sheets theme with
  | error e =>
    have hrender : render sheets title theme content = .error e := by
      rw [render, hstyles]
      rfl
    simp [hrender]
  | ok styles => simp [render_of_styles hstyles, eq_comm]

/-! ### Where the parts begin -/

theorem exists_beforeTheme_eq :
    ∃ start, beforeTheme = start ++ "data-theme=\"" ∧ Avoids "data-theme=\"" start := by
  change ∃ start, _ ++ ("<html lang=\"en\" " ++ "data-theme=\"") = _ ∧ _
  rw [← String.append_assoc]
  refine ⟨_, rfl, ?_⟩
  exact .append (.ofList rfl) (.ofList rfl)

theorem exists_beforeTitle_eq :
    ∃ head, beforeTitle = head ++ "<title>" ∧ Avoids "<title>" head := by
  change ∃ head, _ ++ ("  " ++ "<title>") = _ ∧ _
  rw [← String.append_assoc]
  refine ⟨_, rfl, ?_⟩
  repeat refine .append ?_ (.ofList rfl)
  exact .ofList rfl

theorem exists_beforeContent_eq :
    ∃ body, beforeContent = "\n" ++ body ++ "<article class=\"markdown-body\">\n" ∧
      Avoids "<article class=\"markdown-body\">\n" body := by
  refine ⟨"  </style>\n" ++ "</head>\n" ++ "<body>\n", ?_, ?_⟩
  · simp only [beforeContent, String.append_assoc]
  · repeat refine .append ?_ (.ofList rfl)
    exact .ofList rfl

theorem avoids_article_beforeStyles :
    Avoids "<article class=\"markdown-body\">\n" beforeStyles := by
  unfold beforeStyles
  repeat refine .append ?_ (.ofList rfl)
  exact .ofList rfl

/-- No article begins in the styles of a page, whichever scheme they are of. -/
theorem avoids_article_highlightStyles {sheets : Sheets} (h : NoArticle sheets) {theme : Theme}
    {styles : String} (hstyles : highlightStyles sheets theme = .ok styles) :
    Avoids "<article class=\"markdown-body\">\n" (styles ++ "\n") := by
  have hfollowed (c : Char) (hc : c ∉ "<article class=\"markdown-body\">".toList)
      {scheme : ColorScheme} {text : String} (htext : scheme.styles sheets = .ok text) :
      Avoids "<article class=\"markdown-body\">\n" (text ++ String.singleton c) :=
    (Avoids.append_singleton (h scheme text htext) hc).of_longer ⟨['\n'], rfl⟩
  have hline (scheme : ColorScheme) {text : String} (htext : scheme.styles sheets = .ok text) :
      Avoids "<article class=\"markdown-body\">\n" (text ++ "\n") :=
    hfollowed '\n' (by decide) htext
  cases theme with
  | light => exact hline .light hstyles
  | dark => exact hline .dark hstyles
  | auto =>
    cases hlight : ColorScheme.light.styles sheets with
    | error e =>
      rw [highlightStyles, hlight] at hstyles
      cases hstyles
    | ok light =>
      cases hdark : ColorScheme.dark.styles sheets with
      | error e =>
        rw [highlightStyles, hlight, hdark] at hstyles
        cases hstyles
      | ok dark =>
        rw [highlightStyles, hlight, hdark] at hstyles
        obtain rfl := Except.ok.inj hstyles
        have hparts : light ++ "\n@media (prefers-color-scheme: dark)" ++ Highlight.braced dark ++
            "\n" = light ++ "\n" ++ "@media (prefers-color-scheme: dark) \x7b\n" ++
              (dark ++ String.singleton '\x7d') ++ "\n\n" := by
          rw [← String.toList_inj]
          simp [Highlight.braced]
        rw [hparts]
        exact .append (.append ((hline .light hlight).append (.ofList rfl))
          (hfollowed '\x7d' (by decide) hdark)) (.ofList rfl)

/-! ### Reading -/

theorem plain_name (theme : Theme) : Plain theme.name := by
  cases theme <;> exact .ofList rfl

theorem exists_append_eq_append {front s : String} (h : ∃ rest, s = front ++ rest)
    (t : String) : ∃ rest, s ++ t = front ++ rest := by
  obtain ⟨rest, rfl⟩ := h
  exact ⟨rest ++ t, String.append_assoc⟩

theorem themeName?_fill (title : String) (theme : Theme) (styles content : String) :
    themeName? (fill title theme styles content) = some theme.name := by
  obtain ⟨start, hstart, hfront⟩ := exists_beforeTheme_eq
  obtain ⟨rest, hrest⟩ : ∃ rest, beforeTitle = "\"" ++ rest := by
    unfold beforeTitle
    repeat refine exists_append_eq_append ?_ _
    exact ⟨">\n", rfl⟩
  have hname : Avoids "\"" theme.name :=
    .of_not_mem (fun hmem => plain_name theme '"' hmem (by decide)) []
  rw [themeName?, fill_eq, hstart, hrest]
  simp only [String.append_assoc]
  rw [Text.after?_of_avoids hfront, Option.bind_some, Text.before?_of_avoids hname]

theorem titleText?_fill (title : String) (theme : Theme) (styles content : String) :
    titleText? (fill title theme styles content) = some title := by
  obtain ⟨head, hhead, hfront⟩ := exists_beforeTitle_eq
  obtain ⟨rest, hrest⟩ : ∃ rest, beforeStyles = "</title>" ++ rest := by
    unfold beforeStyles
    repeat refine exists_append_eq_append ?_ _
    exact ⟨"\n", rfl⟩
  have hstart : Avoids "<title>" (beforeTheme ++ theme.name ++ head) :=
    .append (.append (.append (.ofList rfl) (.ofList rfl)) (avoids_of_plain (plain_name theme)))
      hfront
  have htitle : Avoids "</title>" (escapeWith templateRules title) :=
    avoids_of_plain (Html.guards_templateRules.plain_escapeWith title)
  have hpage : fill title theme styles content = beforeTheme ++ theme.name ++ head ++ ("<title>" ++
      (escapeWith templateRules title ++ ("</title>" ++ (rest ++ styles ++ beforeContent ++
        content ++ afterContent)))) := by
    rw [fill_eq, hhead, hrest]
    simp only [String.append_assoc]
  rw [titleText?, hpage, Text.after?_of_avoids hstart, Option.bind_some,
    Text.before?_of_avoids htitle, Option.map_some, Html.decode_escapeWith (by decide)]

/-- The content is found between the tags of its article, whatever tags are in it. -/
theorem articleContent?_fill {sheets : Sheets} (h : NoArticle sheets) {theme : Theme}
    {styles : String} (hstyles : highlightStyles sheets theme = .ok styles)
    (title content : String) :
    articleContent? (fill title theme styles content) = some content := by
  obtain ⟨body, hbody, hfront⟩ := exists_beforeContent_eq
  have htheme : Avoids "<article class=\"markdown-body\">\n" (beforeTheme ++ theme.name) :=
    .append (.append (.ofList rfl) (.ofList rfl)) (avoids_of_plain (plain_name theme))
  have hhead : Avoids "<article class=\"markdown-body\">\n" beforeTitle := by
    unfold beforeTitle
    repeat refine .append ?_ (.ofList rfl)
    exact .ofList rfl
  have hsheet : Avoids "<article class=\"markdown-body\">\n" (beforeStyles ++ (styles ++ "\n")) :=
    avoids_article_beforeStyles.append (avoids_article_highlightStyles h hstyles)
  have htitle : Avoids "<article class=\"markdown-body\">\n" (escapeWith templateRules title) :=
    avoids_of_plain (Html.guards_templateRules.plain_escapeWith title)
  have hstart := (((htheme.append hhead).append htitle).append hsheet).append hfront
  have hend : afterContent = "\n</article>" ++ "\n</body>\n</html>" := rfl
  have hpage : fill title theme styles content =
      beforeTheme ++ theme.name ++ beforeTitle ++ escapeWith templateRules title ++
        (beforeStyles ++ (styles ++ "\n")) ++ body ++
          ("<article class=\"markdown-body\">\n" ++
            (content ++ ("\n</article>" ++ "\n</body>\n</html>"))) := by
    rw [fill_eq, hbody, hend]
    simp only [String.append_assoc]
  rw [articleContent?, hpage, Text.after?_of_avoids hstart, Option.bind_some]
  exact Text.beforeLast?_of_isAvoided rfl content

/-- Where there are styles for a theme, and no article begins in them, there is a page of its parts
one after the other. Its title and its content can be read off it, and pages are the same only if
all of their parts are. -/
theorem page_determines_parts {sheets : Sheets} (h : NoArticle sheets) {theme : Theme}
    {styles : String} (hstyles : highlightStyles sheets theme = .ok styles)
    (title content : String) :
    ∃ page, render sheets title theme content = .ok page ∧
      page = beforeTheme ++ theme.name ++ beforeTitle ++ escapeWith templateRules title ++
        beforeStyles ++ styles ++ beforeContent ++ content ++ afterContent ∧
      titleText? page = some title ∧ articleContent? page = some content ∧
      ∀ title' theme' content', render sheets title' theme' content' = .ok page ↔
        title' = title ∧ theme' = theme ∧ content' = content := by
  refine ⟨_, render_of_styles hstyles title content, fill_eq title theme styles content,
    titleText?_fill title theme styles content, articleContent?_fill h hstyles title content,
    fun title' theme' content' => ⟨fun hrender => ?_, ?_⟩⟩
  · obtain ⟨styles', hstyles', hpage⟩ := render_eq_ok_iff.mp hrender
    have htitle := titleText?_fill title theme styles content
    have htheme := themeName?_fill title theme styles content
    have hcontent := articleContent?_fill h hstyles title content
    rw [hpage, titleText?_fill, Option.some_inj] at htitle
    rw [hpage, themeName?_fill, Option.some_inj] at htheme
    rw [hpage, articleContent?_fill h hstyles', Option.some_inj] at hcontent
    have hname : theme' = theme := by
      revert htheme
      cases theme <;> cases theme' <;> decide
    exact ⟨htitle, hname, hcontent⟩
  · rintro ⟨rfl, rfl, rfl⟩
    exact render_of_styles hstyles title' content'

theorem noArticle_standard : NoArticle Sheets.standard := by
  intro scheme styles h
  have hplain : ∀ word ∈ scheme.sheet.words, Plain word := by
    cases scheme with
    | light => exact Highlight.plain_words_light
    | dark => exact Highlight.plain_words_dark
  have hstandard : scheme.styles Sheets.standard = .ok scheme.sheet.text := by
    cases scheme <;> rfl
  obtain rfl := Except.ok.inj (hstandard.symm.trans h)
  exact Avoids.not_infix (Highlight.Stylesheet.avoids_text hplain) (by decide)

/-- A title and a content that imitate the markup around them, in a page of both schemes. -/
theorem page_determines_parts_of_imitation :
    NoArticle Sheets.standard ∧
      ∃ styles page, highlightStyles Sheets.standard .auto = .ok styles ∧
        render Sheets.standard "</title>" .auto "\n</article>" = .ok page ∧
        titleText? page = some "</title>" ∧ articleContent? page = some "\n</article>" := by
  obtain ⟨styles, hstyles⟩ : ∃ styles, highlightStyles Sheets.standard .auto = .ok styles :=
    ⟨_, rfl⟩
  obtain ⟨page, hpage, -, htitle, hcontent, -⟩ :=
    page_determines_parts noArticle_standard hstyles "</title>" "\n</article>"
  exact ⟨noArticle_standard, styles, page, hstyles, hpage, htitle, hcontent⟩

end MarkdownPreview.Page
