import MarkdownPreview.Highlight.Scheme
import MarkdownPreview.Proofs.Html.Tags
import MarkdownPreview.Proofs.Text.Search

/-!
Stylesheets inside a page. Selectors and colors are plain, so no tag begins in a stylesheet.
-/

namespace MarkdownPreview.Highlight

open Html (Plain plain_append_iff)
open Text (Avoids)

/-- The texts that a rule is written from. -/
def StyleRule.words (rule : StyleRule) : List String :=
  rule.selectors ++ (rule.color.toList ++ rule.background.toList)

def Stylesheet.words (sheet : Stylesheet) : List String :=
  [sheet.name, sheet.color, sheet.background] ++ sheet.rules.flatMap StyleRule.words

section

/-! What comes after the `<` of a tag does not matter. -/

variable {tag : List Char}

theorem avoids_of_plain {s : String} (h : Plain s) : Avoids (String.ofList ('<' :: tag)) s :=
  .of_not_mem (fun hmem => h '<' hmem (by decide)) tag

theorem avoids_braced {declarations : String}
    (h : Avoids (String.ofList ('<' :: tag)) declarations) :
    Avoids (String.ofList ('<' :: tag)) (braced declarations) :=
  .append (.append (.ofList rfl) h) (.ofList rfl)

theorem avoids_colorLine {digits : String} (h : Plain digits) :
    Avoids (String.ofList ('<' :: tag)) (colorLine digits) :=
  .append (.append (.ofList rfl) (avoids_of_plain h)) (.ofList rfl)

theorem avoids_backgroundLine {digits : String} (h : Plain digits) :
    Avoids (String.ofList ('<' :: tag)) (backgroundLine digits) :=
  .append (.append (.ofList rfl) (avoids_of_plain h)) (.ofList rfl)

theorem StyleRule.avoids_text {rule : StyleRule} (h : ∀ word ∈ rule.words, Plain word) :
    Avoids (String.ofList ('<' :: tag)) rule.text := by
  simp only [words, List.forall_mem_append, Option.mem_toList] at h
  obtain ⟨hselectors, hcolor, hbackground⟩ := h
  have hselector : ∀ selector ∈ rule.selectors, Avoids (String.ofList ('<' :: tag)) selector :=
    fun selector hmem => avoids_of_plain (hselectors selector hmem)
  have hcolor : Avoids (String.ofList ('<' :: tag)) ((rule.color.map colorLine).getD "") := by
    cases hdigits : rule.color with
    | none => exact .empty
    | some digits => exact avoids_colorLine (hcolor digits hdigits)
  have hbackground : Avoids (String.ofList ('<' :: tag))
      ((rule.background.map backgroundLine).getD "") := by
    cases hdigits : rule.background with
    | none => exact .empty
    | some digits => exact avoids_backgroundLine (hbackground digits hdigits)
  have hbold : Avoids (String.ofList ('<' :: tag))
      (if rule.bold then "font-weight: bold;\n" else "") := by
    split
    · exact .ofList rfl
    · exact .empty
  have hitalic : Avoids (String.ofList ('<' :: tag))
      (if rule.italic then "font-style: italic;\n" else "") := by
    split
    · exact .ofList rfl
    · exact .empty
  exact .append (.intercalate (.ofList rfl) hselector)
    (avoids_braced (((hcolor.append hbackground).append hbold).append hitalic))

theorem Stylesheet.avoids_text {sheet : Stylesheet} (h : ∀ word ∈ sheet.words, Plain word) :
    Avoids (String.ofList ('<' :: tag)) sheet.text := by
  simp only [words, List.forall_mem_append, List.forall_mem_cons, List.forall_mem_flatMap] at h
  obtain ⟨⟨hname, hcolor, hbackground, -⟩, hrules⟩ := h
  have hcode : Avoids (String.ofList ('<' :: tag))
      (braced (colorLine sheet.color ++ backgroundLine sheet.background)) :=
    avoids_braced (.append (avoids_colorLine hcolor) (avoids_backgroundLine hbackground))
  have hrules : Avoids (String.ofList ('<' :: tag))
      (String.join (sheet.rules.map StyleRule.text)) := by
    refine .join (List.forall_mem_map.mpr fun rule hrule => StyleRule.avoids_text ?_)
    exact hrules rule hrule
  exact .append (.append (.append (.append (.append (.ofList rfl) (avoids_of_plain hname))
    (.ofList rfl)) hcode) (.ofList rfl)) hrules

end

/-! ### The color schemes -/

theorem plain_nestedDictionary (depth : Nat) (value : Bool) :
    Plain (Scheme.nestedDictionary depth value) := by
  have hdepth : Plain (String.join (List.replicate depth ".meta ")) := by
    intro c hc
    rw [String.toList_join, List.mem_flatMap] at hc
    obtain ⟨word, hword, hc⟩ := hc
    have hmeta : Plain ".meta " := .ofList rfl
    rw [List.eq_of_mem_replicate hword] at hc
    exact hmeta c hc
  have hvalue : Plain (if value then ".meta.structure.dictionary.value.json " else "") := by
    cases value <;> exact .ofList rfl
  simp only [Scheme.nestedDictionary, plain_append_iff]
  exact ⟨⟨⟨hdepth, .ofList rfl⟩, hvalue⟩, .ofList rfl⟩

theorem plain_words_dictionaryRules :
    ∀ word ∈ Scheme.dictionaryRules.flatMap StyleRule.words, Plain word := by
  rw [List.forall_mem_flatMap, Scheme.dictionaryRules, List.forall_mem_flatMap]
  intro depth _
  have hcolors : Plain "183691" ∧ Plain "323232" := ⟨.ofList rfl, .ofList rfl⟩
  simp [StyleRule.words, plain_nestedDictionary, hcolors]

theorem plain_words_light : ∀ word ∈ Scheme.light.words, Plain word := by
  simp only [Stylesheet.words, Scheme.light, List.flatMap_append, List.forall_mem_append]
  refine ⟨?_, ⟨?_, plain_words_dictionaryRules⟩, ?_⟩
  all_goals
    repeat' refine List.forall_mem_cons.mpr ⟨.ofList rfl, ?_⟩
    exact List.forall_mem_nil _

theorem plain_words_dark : ∀ word ∈ Scheme.dark.words, Plain word := by
  unfold Stylesheet.words
  repeat' refine List.forall_mem_cons.mpr ⟨.ofList rfl, ?_⟩
  exact List.forall_mem_nil _

end MarkdownPreview.Highlight
