import MarkdownPreview.Proofs.Html.Fragments
import MarkdownPreview.Render.Github

/-!
Tokens that open a text: that of an alert, and the marker of a task. Their characters are written as
they are, and no other text comes to begin with them when it is escaped and its shortcodes are
replaced. So a token is found in the written text where it stands in the text itself.
-/

namespace MarkdownPreview

/-! ### Shortcodes -/

namespace Emoji

/-- Characters that are written as they are, and that nothing else is written with at its start. -/
def isInert (c : Char) : Bool :=
  c.toNat < 128 && (Html.textRules.lookup c).isNone && c != ':'

theorem head_not_inert_ofList {cs : List Char} (h : cs.head?.any fun c => !isInert c)
    {text : String} (htext : glyph (String.ofList cs) = .glyph text) :
    text.toList.head?.any fun c => !isInert c := by
  cases htext
  rw [String.toList_ofList]
  exact h

theorem image_ne_glyph (file text : String) : image file ≠ .glyph text := nofun

theorem head_glyph_not_inert : ∀ entry ∈ table, ∀ text, entry.2 = .glyph text →
    text.toList.head?.any fun c => !isInert c := by
  simp only [table, List.forall_mem_append]
  repeat' apply And.intro
  case right =>
    repeat' refine List.forall_mem_cons.mpr ⟨fun _ h => absurd h (image_ne_glyph _ _), ?_⟩
    exact List.forall_mem_nil _
  all_goals
    repeat' refine List.forall_mem_cons.mpr ⟨fun _ => head_not_inert_ofList rfl, ?_⟩
    exact List.forall_mem_nil _

theorem head?_toList_append {s : String} {c : Char} (h : s.toList.head? = some c) (t : String) :
    (s ++ t).toList.head? = some c := by
  rw [String.toList_append, List.head?_append, h]
  rfl

theorem exists_markup_eq_cons {code : String} {emoji : Emoji} (h : lookup code = some emoji) :
    ∃ c cs, (emoji.markup code).toList = c :: cs ∧ isInert c = false := by
  have hmem := Html.mem_of_lookup_eq_some h
  cases emoji with
  | glyph text =>
    have hhead := head_glyph_not_inert _ hmem text rfl
    cases hcs : text.toList with
    | nil =>
      rw [hcs] at hhead
      cases hhead
    | cons c cs =>
      rw [hcs, List.head?_cons, Option.any_some, Bool.not_eq_true'] at hhead
      exact ⟨c, cs, hcs, hhead⟩
  | image file =>
    have hhead : (Emoji.markup code (.image file)).toList.head? = some '<' := by
      unfold markup
      iterate 6 refine head?_toList_append ?_ _
      decide
    obtain ⟨cs, hcs⟩ := List.head?_eq_some_iff.mp hhead
    exact ⟨'<', cs, hcs, rfl⟩

/-- What is written first tells what comes first, if it is inert. -/
theorem exists_of_substituteChars_eq_cons {cs written : List Char} {c : Char} (h : isInert c)
    (hcs : substituteChars cs = c :: written) :
    ∃ rest, cs = c :: rest ∧ substituteChars rest = written := by
  cases cs with
  | nil => cases hcs
  | cons d rest =>
    rw [substituteChars, pieces] at hcs
    cases hcode : shortcodeAt? (d :: rest) with
    | some found =>
      obtain ⟨code, emoji⟩ := found
      obtain ⟨first, others, hmarkup, hfirst⟩ :=
        exists_markup_eq_cons (lookup_of_shortcodeAt? hcode)
      simp only [hcode, List.flatMap_cons, Piece.markup, hmarkup, List.cons_append] at hcs
      rw [(List.cons.inj hcs).1, h] at hfirst
      cases hfirst
    | none =>
      simp only [hcode, List.flatMap_cons, Piece.markup, List.singleton_append] at hcs
      obtain ⟨rfl, htail⟩ := List.cons.inj hcs
      exact ⟨rest, rfl, htail⟩

end Emoji

/-! ### Escapes -/

namespace Html

theorem escapeChars_cons_of_lookup {c : Char} (h : textRules.lookup c = none) (cs : List Char) :
    escapeChars textRules (c :: cs) = c :: escapeChars textRules cs := by
  rw [escapeChars, List.flatMap_cons, escapeChar, h]
  rfl

/-- References begin with an ampersand. -/
theorem exists_reference_eq_cons {c : Char} {reference : String}
    (h : textRules.lookup c = some reference) : ∃ cs, reference.toList = '&' :: cs := by
  have hall : ∀ rule ∈ textRules, rule.2.toList.head? = some '&' := by decide
  exact List.head?_eq_some_iff.mp (hall _ (mem_of_lookup_eq_some h))

theorem exists_of_escapeChars_eq_cons {cs written : List Char} {c : Char} (h : c ≠ '&')
    (hcs : escapeChars textRules cs = c :: written) :
    ∃ rest, cs = c :: rest ∧ escapeChars textRules rest = written := by
  cases cs with
  | nil => cases hcs
  | cons d rest =>
    cases hlookup : textRules.lookup d with
    | some reference =>
      obtain ⟨others, hreference⟩ := exists_reference_eq_cons hlookup
      rw [escapeChars, List.flatMap_cons, escapeChar, hlookup] at hcs
      simp only [hreference, List.cons_append] at hcs
      exact absurd (List.cons.inj hcs).1.symm h
    | none =>
      rw [escapeChars_cons_of_lookup hlookup] at hcs
      obtain ⟨rfl, htail⟩ := List.cons.inj hcs
      exact ⟨rest, rfl, htail⟩

end Html

/-! ### Running text -/

namespace Render.Github

open Html (escape escapeChars textRules)
open Emoji (isInert substituteChars)

/-- The characters that a text is written as. -/
def richChars (cs : List Char) : List Char := substituteChars (escapeChars textRules cs)

theorem toList_richText (literal : String) :
    (richText literal).toList = richChars literal.toList := by
  rw [richText, Emoji.toList_substitute, escape, Html.toList_escapeWith]
  rfl

theorem richChars_cons_of_inert {c : Char} (h : isInert c) (cs : List Char) :
    richChars (c :: cs) = c :: richChars cs := by
  simp only [isInert, Bool.and_eq_true, Option.isNone_iff_eq_none, bne_iff_ne] at h
  obtain ⟨⟨-, hlookup⟩, hcolon⟩ := h
  rw [richChars, Html.escapeChars_cons_of_lookup hlookup,
    Emoji.substituteChars_cons_of_ne_colon hcolon]
  rfl

theorem exists_of_richChars_eq_cons {cs written : List Char} {c : Char} (h : isInert c)
    (hcs : richChars cs = c :: written) : ∃ rest, cs = c :: rest ∧ richChars rest = written := by
  have hampersand : c ≠ '&' := by
    rintro rfl
    cases h
  obtain ⟨escaped, hescaped, rfl⟩ := Emoji.exists_of_substituteChars_eq_cons h hcs
  obtain ⟨rest, rfl, rfl⟩ := Html.exists_of_escapeChars_eq_cons hampersand hescaped
  exact ⟨rest, rfl, rfl⟩

theorem richChars_eq_append_iff {token : List Char} (h : ∀ c ∈ token, isInert c)
    {cs written : List Char} :
    richChars cs = token ++ written ↔ ∃ rest, cs = token ++ rest ∧ richChars rest = written := by
  induction token generalizing cs with
  | nil => simp
  | cons c token ih =>
    have hc : isInert c := h c List.mem_cons_self
    have htoken := fun d hd => h d (List.mem_cons_of_mem c hd)
    constructor
    · intro hcs
      obtain ⟨rest, rfl, hrest⟩ := exists_of_richChars_eq_cons hc hcs
      obtain ⟨rest', rfl, hrest'⟩ := (ih htoken).mp hrest
      exact ⟨rest', rfl, hrest'⟩
    · rintro ⟨rest, rfl, rfl⟩
      rw [List.cons_append, richChars_cons_of_inert hc, (ih htoken).mpr ⟨rest, rfl, rfl⟩,
        List.cons_append]

end Render.Github

/-! ### Tokens -/

/-- The token that opens an alert. -/
def Alert.token (alert : Alert) : String := "[!" ++ alert.keyword ++ "]"

/-- The markers of a box that is checked, or of one that is not. -/
def TaskMarker.markers (checked : Bool) : List String := if checked then ["[x]", "[X]"] else ["[ ]"]

theorem Alert.parse?_token_append (alert : Alert) (rest : String) :
    Alert.parse? (alert.token ++ rest) = some (alert, rest) := by
  have hword : alert.keyword.toList.all (· != ']') = true := by
    cases alert <;> decide
  have hkeyword : ofKeyword? alert.keyword.toList = some alert := by
    cases alert <;> decide
  have htoken : (alert.token ++ rest).toList =
      '[' :: '!' :: (alert.keyword.toList ++ ']' :: rest.toList) := by
    simp [token]
  rw [List.all_eq_true] at hword
  rw [parse?, htoken, parseChars?, List.dropWhile_append_of_pos hword,
    List.takeWhile_append_of_pos hword]
  simp [hkeyword]

theorem Alert.parse?_eq_some_iff {text rest : String} {alert : Alert} :
    Alert.parse? text = some (alert, rest) ↔ text = alert.token ++ rest :=
  ⟨Alert.parse?_eq_some, fun h => by rw [h, Alert.parse?_token_append]⟩

theorem TaskMarker.parse?_marker_append {checked : Bool} {marker : String}
    (h : marker ∈ markers checked) (rest : String) :
    TaskMarker.parse? (marker ++ rest) = some (checked, rest) := by
  obtain ⟨mark, hmarker, hparse⟩ : ∃ mark, marker.toList = ['[', mark, ']'] ∧
      parseChars? ('[' :: mark :: ']' :: rest.toList) = some (checked, rest.toList) := by
    cases checked with
    | false =>
      obtain rfl := List.mem_singleton.mp h
      exact ⟨' ', rfl, rfl⟩
    | true =>
      rcases List.mem_cons.mp h with rfl | h
      · exact ⟨'x', rfl, rfl⟩
      · obtain rfl := List.mem_singleton.mp h
        exact ⟨'X', rfl, rfl⟩
  rw [parse?, String.toList_append, hmarker]
  simp only [List.cons_append, List.nil_append, hparse, Option.map_some, String.ofList_toList]

theorem TaskMarker.parse?_eq_some_iff {text rest : String} {checked : Bool} :
    TaskMarker.parse? text = some (checked, rest) ↔
      ∃ marker ∈ markers checked, text = marker ++ rest := by
  constructor
  · intro h
    obtain ⟨marker, hmem, rfl⟩ := TaskMarker.parse?_eq_some h
    have hmarker : marker ∈ markers false ∨ marker ∈ markers true := by
      simpa [markers] using hmem
    -- a marker tells whether its box is checked
    rcases hmarker with hmarker | hmarker
    all_goals
      rw [parse?_marker_append hmarker, Option.some.injEq, Prod.mk.injEq] at h
      exact ⟨marker, h.1 ▸ hmarker, rfl⟩
  · rintro ⟨marker, hmem, rfl⟩
    exact parse?_marker_append hmem rest

namespace Render.Github

open Emoji (isInert)

/-- A token stands in the written text where it stands in the text. -/
theorem richText_eq_append_iff {token : String} (h : ∀ c ∈ token.toList, isInert c)
    {literal written : String} :
    richText literal = token ++ written ↔
      ∃ rest, literal = token ++ rest ∧ richText rest = written := by
  constructor
  · intro heq
    rw [← String.toList_inj, toList_richText, String.toList_append] at heq
    obtain ⟨rest, hliteral, hrest⟩ := (richChars_eq_append_iff h).mp heq
    refine ⟨String.ofList rest, ?_, ?_⟩
    · rw [← String.toList_inj, hliteral, String.toList_append, String.toList_ofList]
    · rw [← String.toList_inj, toList_richText, String.toList_ofList, hrest]
  · rintro ⟨rest, rfl, rfl⟩
    rw [← String.toList_inj, toList_richText, String.toList_append, String.toList_append,
      toList_richText]
    exact (richChars_eq_append_iff h).mpr ⟨rest.toList, rfl, rfl⟩

/-- A parser that finds the tokens of a kind at the front of a text, and nothing else, finds in the
written text what it finds in the text. -/
theorem parse?_richText {κ : Type} {parse? : String → Option (κ × String)}
    {tokens : κ → List String}
    (hparse : ∀ text kind rest,
      parse? text = some (kind, rest) ↔ ∃ token ∈ tokens kind, text = token ++ rest)
    (hinert : ∀ kind, ∀ token ∈ tokens kind, ∀ c ∈ token.toList, isInert c) (literal : String) :
    parse? (richText literal) =
      (parse? literal).map fun (kind, rest) => (kind, richText rest) := by
  apply Option.ext
  rintro ⟨kind, written⟩
  rw [hparse, Option.map_eq_some_iff]
  constructor
  · rintro ⟨token, hmem, heq⟩
    obtain ⟨rest, hliteral, rfl⟩ := (richText_eq_append_iff (hinert kind token hmem)).mp heq
    exact ⟨(kind, rest), (hparse _ _ _).mpr ⟨token, hmem, hliteral⟩, rfl⟩
  · rintro ⟨⟨found, rest⟩, hfound, heq⟩
    cases heq
    obtain ⟨token, hmem, hliteral⟩ := (hparse _ _ _).mp hfound
    exact ⟨token, hmem, (richText_eq_append_iff (hinert kind token hmem)).mpr ⟨rest, hliteral, rfl⟩⟩

theorem parse?_alert_richText (literal : String) :
    Alert.parse? (richText literal) =
      (Alert.parse? literal).map fun (alert, rest) => (alert, richText rest) := by
  have hinert : ∀ alert : Alert, ∀ token ∈ [alert.token], ∀ c ∈ token.toList, isInert c := by
    simp only [← List.all_eq_true]
    intro alert
    cases alert <;> decide
  refine parse?_richText (fun text alert rest => ?_) hinert literal
  simp only [Alert.parse?_eq_some_iff, List.mem_singleton, exists_eq_left]

theorem parse?_marker_richText (literal : String) :
    TaskMarker.parse? (richText literal) =
      (TaskMarker.parse? literal).map fun (checked, rest) => (checked, richText rest) := by
  have hinert : ∀ checked, ∀ marker ∈ TaskMarker.markers checked, ∀ c ∈ marker.toList,
      isInert c := by
    simp only [← List.all_eq_true]
    decide
  exact parse?_richText (fun _ _ _ => TaskMarker.parse?_eq_some_iff) hinert literal

/-! ### Main statement -/

/-- An alert's token and a task's marker are found in the written text if and only if they are found
in the text, and what is left of the written text is the rest of the text as it is written. They are
found where a text begins with one, and nowhere else. -/
theorem tokens_of_richText (text : String) :
    Alert.parse? (richText text) =
      (Alert.parse? text).map (fun (alert, rest) => (alert, richText rest)) ∧
    TaskMarker.parse? (richText text) =
      (TaskMarker.parse? text).map (fun (checked, rest) => (checked, richText rest)) ∧
    (∀ alert rest, Alert.parse? text = some (alert, rest) ↔ text = alert.token ++ rest) ∧
    (∀ checked rest, TaskMarker.parse? text = some (checked, rest) ↔
      ∃ marker ∈ TaskMarker.markers checked, text = marker ++ rest) :=
  ⟨parse?_alert_richText text, parse?_marker_richText text,
    fun _ _ => Alert.parse?_eq_some_iff, fun _ _ => TaskMarker.parse?_eq_some_iff⟩

example : Alert.parse? (richText "[!NOTE] a < b :tada:") = some (.note, " a &lt; b 🎉") ∧
    TaskMarker.parse? (richText "[:x:] a") = none := by
  decide +kernel

end Render.Github

end MarkdownPreview
