import MarkdownPreview.Proofs.Emoji.Pieces
import MarkdownPreview.Proofs.Text.Ascii
import MarkdownPreview.Proofs.Text.Cut

/-!
The scan of a text for shortcodes, beside the pieces of the text. What is written, with the part
that is gone over and not copied yet and the rest as its pieces are written, is the same after each
step. All cuts are between characters: colons and words are ASCII.
-/

namespace MarkdownPreview.Emoji

open Text

/-! ### Looking for a colon, and for a shortcode -/

theorem isAscii_isWordChar : IsAscii isWordChar := by
  intro c hc
  simp only [isWordChar, Bool.or_eq_true, beq_iff_eq] at hc
  rcases hc with ((hc | rfl) | rfl) | rfl
  · exact isAscii_isAlphanum c hc
  all_goals decide

theorem utf8ByteSize_colon : ":".utf8ByteSize = 1 := rfl

theorem colonFrom?_of_not_mem {rest : String} (h : ':' ∉ rest.toList) (front : String) :
    colonFrom? (front ++ rest) front.utf8ByteSize = .ok none := by
  have hbytes := (idxOf?_encodeUtf8_eq_none_iff (by decide)).mpr h
  unfold colonFrom?
  split
  · rw [cut_rest, ok_bind, hbytes]
    rfl
  · rfl

theorem exists_toList_eq (cs : List Char) : ∃ text : String, cs = text.toList :=
  ⟨.ofList cs, String.toList_ofList.symm⟩

theorem toList_append_colon_append (before after : String) :
    (before ++ (":" ++ after)).toList = before.toList ++ ':' :: after.toList := by
  simp

theorem exists_eq_append_colon_append {text : String} (h : ':' ∈ text.toList) :
    ∃ before after, text = before ++ (":" ++ after) ∧ ':' ∉ before.toList := by
  obtain ⟨before, after, htext, hbefore⟩ := List.eq_append_cons_of_mem h
  obtain ⟨before, rfl⟩ := exists_toList_eq before
  obtain ⟨after, rfl⟩ := exists_toList_eq after
  rw [← toList_append_colon_append, String.toList_inj] at htext
  exact ⟨before, after, htext, hbefore⟩

theorem idxOf?_colon {before : String} (h : ':' ∉ before.toList) (after : String) :
    (encodeUtf8 (before ++ (":" ++ after)).toList).idxOf? ':'.toUInt8 =
      some before.utf8ByteSize := by
  rw [toList_append_colon_append, idxOf?_encodeUtf8_append (by decide) h,
    length_encodeUtf8_toList]

theorem colonFrom?_append {before : String} (h : ':' ∉ before.toList) (front after : String) :
    colonFrom? (front ++ (before ++ (":" ++ after))) front.utf8ByteSize =
      .ok (some (front ++ before).utf8ByteSize) := by
  have hlt : front.utf8ByteSize < (front ++ (before ++ (":" ++ after))).utf8ByteSize := by
    simp only [String.utf8ByteSize_append, utf8ByteSize_colon]
    omega
  rw [colonFrom?, if_pos hlt, cut_rest, ok_bind, idxOf?_colon h, String.utf8ByteSize_append]
  rfl

/-- The colon is looked for behind the word, and what is cut out is the word between its colons. -/
theorem shortcodeFrom?_append (front after : String) :
    shortcodeFrom? (front ++ (":" ++ after)) front.utf8ByteSize =
      .ok (shortcodeAt? (':' :: after.toList)) := by
  obtain ⟨word, hword⟩ := exists_toList_eq (after.toList.takeWhile isWordChar)
  obtain ⟨others, hothers⟩ := exists_toList_eq (after.toList.dropWhile isWordChar)
  have hafter : after = word ++ others := by
    rw [← String.toList_inj, String.toList_append, ← hword, ← hothers,
      List.takeWhile_append_dropWhile]
  have hcut : cut (front ++ (":" ++ after)) (front.utf8ByteSize + 1)
      (front ++ (":" ++ after)).utf8ByteSize = .ok after := by
    have h := cut_rest (front ++ ":") after
    rw [String.append_assoc, String.utf8ByteSize_append] at h
    exact h
  have hlength : ((encodeUtf8 after.toList).takeWhile isWordByte).length = word.utf8ByteSize := by
    have hbytes : (encodeUtf8 after.toList).takeWhile isWordByte = _ :=
      takeWhile_encodeUtf8 isAscii_isWordChar after.toList
    rw [hbytes, hword, length_encodeUtf8_toList]
  have hstop : front.utf8ByteSize + 1 + word.utf8ByteSize =
      (front ++ ":" ++ word).utf8ByteSize := by
    rw [String.utf8ByteSize_append, String.utf8ByteSize_append, utf8ByteSize_colon]
  have htext : front ++ (":" ++ after) = front ++ ":" ++ word ++ others := by
    rw [hafter]
    simp only [String.append_assoc]
  have hclosed := getElem?_encodeUtf8_append_eq_iff (c := ':') (by decide)
    (front ++ ":" ++ word).toList others.toList
  rw [length_encodeUtf8_toList, ← String.toList_append, ← htext, ← hstop] at hclosed
  have hnonempty : 0 < word.utf8ByteSize ↔ word.toList ≠ [] := by
    rw [← length_encodeUtf8_toList, List.length_pos_iff, ne_eq, encodeUtf8_eq_nil_iff]
  unfold shortcodeFrom? shortcodeAt?
  simp only [hcut, ok_bind, hlength, hword, hothers]
  split
  case isTrue hfound =>
    obtain ⟨rest, hrest⟩ := hclosed.mp hfound.2
    obtain ⟨c, cs, hcs⟩ := List.exists_cons_of_ne_nil (hnonempty.mp hfound.1)
    have hparts : front ++ (":" ++ after) =
        front ++ (":" ++ word ++ ":") ++ String.ofList rest := by
      have hothers : others = ":" ++ String.ofList rest := by
        rw [← String.toList_inj]
        simp [hrest]
      rw [hafter, hothers]
      simp only [String.append_assoc]
    have hsize : front.utf8ByteSize + 1 + word.utf8ByteSize + 1 =
        (front ++ (":" ++ word ++ ":")).utf8ByteSize := by
      simp only [String.utf8ByteSize_append, utf8ByteSize_colon]
      omega
    have hcode : ":" ++ word ++ ":" = String.ofList (':' :: c :: cs ++ [':']) := by
      rw [← String.toList_inj]
      simp [hcs]
    rw [hcs, hrest, hparts, hsize, cut_append, ok_bind, hcode]
    rfl
  case isFalse hnot =>
    split
    case h_1 c cs rest hcs hrest =>
      refine absurd ⟨hnonempty.mpr ?_, hclosed.mpr ⟨rest, hrest⟩⟩ hnot
      rw [hcs]
      exact List.cons_ne_nil c cs
    case h_2 => rfl

/-! ### Steps -/

namespace Scan

/-- A scan stands between two characters of a text: the first part is in what is written, the second
one is gone over and not copied, and the rest is to come. -/
structure At (text : String) (s : Scan) (done kept rest : String) : Prop where
  text_eq : text = done ++ kept ++ rest
  copied_eq : s.copied = done.utf8ByteSize
  position_eq : s.position = (done ++ kept).utf8ByteSize

/-- What a scan comes to: whether a shortcode is found, and what is written. -/
def outcome (s : Scan) (kept rest : String) : Bool × List Char :=
  (s.written.isSome || hasShortcode rest.toList,
    (s.written.getD "" ++ kept).toList ++ substituteChars rest.toList)

variable {text done kept rest before after : String} {s : Scan}

theorem outcome_of_not_mem (h : ':' ∉ rest.toList) :
    s.outcome kept rest = (s.written.isSome, (s.written.getD "" ++ (kept ++ rest)).toList) := by
  have hnone := hasShortcode_of_not_mem h
  rw [outcome, hnone, Bool.or_false, substituteChars_of_hasShortcode_eq_false hnone,
    ← String.toList_append, String.append_assoc]

theorem At.text_eq_append (h : At text s done kept (before ++ rest)) :
    text = done ++ kept ++ before ++ rest := by
  rw [h.text_eq]
  simp only [String.append_assoc]

theorem At.shortcodeFrom?_eq (h : At text s done kept (before ++ (":" ++ after))) :
    shortcodeFrom? text (done ++ kept ++ before).utf8ByteSize =
      .ok (shortcodeAt? (':' :: after.toList)) := by
  rw [h.text_eq_append]
  exact shortcodeFrom?_append (done ++ kept ++ before) after

/-- The colon after a part without colons opens a shortcode. -/
theorem At.pass_of_some (h : At text s done kept (before ++ (":" ++ after)))
    (hbefore : ':' ∉ before.toList) {code : String} {emoji : Emoji}
    (hcode : shortcodeAt? (':' :: after.toList) = some (code, emoji)) :
    ∃ next done' rest', s.pass text (done ++ kept ++ before).utf8ByteSize = .ok next ∧
      At text next done' "" rest' ∧
      next.outcome "" rest' = s.outcome kept (before ++ (":" ++ after)) := by
  obtain ⟨-, rest, -, -, hrest, -⟩ := exists_word_of_shortcodeAt? hcode
  have hafter : ":" ++ after = code ++ String.ofList rest := by
    rw [← String.toList_inj]
    simp [hrest]
  have htext := h.text_eq_append
  have hdone : done ++ (kept ++ before) = done ++ kept ++ before := String.append_assoc.symm
  have hcut := cut_append done (kept ++ before) (":" ++ after)
  rw [hdone, ← htext, ← h.copied_eq] at hcut
  obtain ⟨stop, hstop⟩ : ∃ stop, (done ++ kept ++ before).utf8ByteSize + code.utf8ByteSize = stop :=
    ⟨_, rfl⟩
  have hsize : stop = (done ++ kept ++ before ++ code).utf8ByteSize := by
    rw [String.utf8ByteSize_append, hstop]
  refine ⟨⟨some (s.written.getD "" ++ (kept ++ before) ++ emoji.markup code), stop, stop⟩,
    done ++ kept ++ before ++ code, .ofList rest, ?_, ⟨?_, hsize, ?_⟩, ?_⟩
  · rw [pass, h.shortcodeFrom?_eq, hcode, ok_bind]
    dsimp only
    rw [hcut, ok_bind, hstop]
    rfl
  · rw [htext, hafter]
    simp only [String.append_assoc, String.append_empty]
  · rw [String.append_empty]
    exact hsize
  · have hsome := hcode
    rw [hrest] at hsome
    simp only [outcome, toList_append_colon_append, hasShortcode_append hbefore,
      substituteChars_append hbefore, hrest, hasShortcode_append_of_some hsome,
      substituteChars_append_of_some hsome]
    simp

/-- The colon after a part without colons opens no shortcode. -/
theorem At.pass_of_none (h : At text s done kept (before ++ (":" ++ after)))
    (hbefore : ':' ∉ before.toList) (hcode : shortcodeAt? (':' :: after.toList) = none) :
    ∃ next, s.pass text (done ++ kept ++ before).utf8ByteSize = .ok next ∧
      At text next done (kept ++ before ++ ":") after ∧
      next.outcome (kept ++ before ++ ":") after = s.outcome kept (before ++ (":" ++ after)) := by
  refine ⟨{ s with position := (done ++ kept ++ before).utf8ByteSize + 1 }, ?_,
    ⟨?_, h.copied_eq, ?_⟩, ?_⟩
  · rw [pass, h.shortcodeFrom?_eq, hcode]
    rfl
  · rw [h.text_eq_append]
    simp only [String.append_assoc]
  · simp only [String.utf8ByteSize_append, utf8ByteSize_colon]
    omega
  · simp only [outcome, toList_append_colon_append, hasShortcode_append hbefore,
      hasShortcode_cons_of_none hcode, substituteChars_append hbefore,
      substituteChars_cons_of_none hcode]
    simp

/-! ### The run -/

theorem At.colonFrom?_eq (h : At text s done kept rest) :
    (':' ∉ rest.toList ∧ colonFrom? text s.position = .ok none) ∨
      ∃ before after, rest = before ++ (":" ++ after) ∧ ':' ∉ before.toList ∧
        colonFrom? text s.position = .ok (some (done ++ kept ++ before).utf8ByteSize) := by
  rw [h.text_eq, h.position_eq]
  by_cases hcolon : ':' ∈ rest.toList
  · obtain ⟨before, after, rfl, hbefore⟩ := exists_eq_append_colon_append hcolon
    exact .inr ⟨before, after, rfl, hbefore, colonFrom?_append hbefore _ after⟩
  · exact .inl ⟨hcolon, colonFrom?_of_not_mem hcolon _⟩

/-- A step goes on to the next colon, and leaves the outcome as it is. -/
theorem At.exists_pass (h : At text s done kept rest) {start : Nat}
    (hcolon : colonFrom? text s.position = .ok (some start)) :
    ∃ next done' kept' rest', s.pass text start = .ok next ∧ At text next done' kept' rest' ∧
      next.outcome kept' rest' = s.outcome kept rest := by
  rcases h.colonFrom?_eq with ⟨-, hnone⟩ | ⟨before, after, rfl, hbefore, hstart⟩
  · rw [hnone] at hcolon
    cases hcolon
  · rw [hstart] at hcolon
    cases hcolon
    cases hcode : shortcodeAt? (':' :: after.toList) with
    | none =>
      obtain ⟨next, hpass, hat, houtcome⟩ := h.pass_of_none hbefore hcode
      exact ⟨next, _, _, _, hpass, hat, houtcome⟩
    | some found =>
      obtain ⟨next, done', rest', hpass, hat, houtcome⟩ := h.pass_of_some hbefore hcode
      exact ⟨next, _, _, _, hpass, hat, houtcome⟩

/-- The run answers, and comes to what its start does. -/
theorem At.exists_run (h : At text s done kept rest) :
    ∃ final tail, s.run text = .ok final ∧ cut text final.copied text.utf8ByteSize = .ok tail ∧
      (final.written.isSome, (final.written.getD "" ++ tail).toList) = s.outcome kept rest := by
  -- a step that failed would contradict the lemma for one step
  fun_induction run text s generalizing done kept rest with
  | case1 s bad hcolon =>
    rcases h.colonFrom?_eq with ⟨-, hok⟩ | ⟨_, _, -, -, hok⟩
    all_goals
      rw [hok] at hcolon
      cases hcolon
  | case2 s hcolon =>
    rcases h.colonFrom?_eq with ⟨hrest, -⟩ | ⟨_, _, -, -, hsome⟩
    · have hcut := cut_rest done (kept ++ rest)
      rw [← String.append_assoc, ← h.text_eq, ← h.copied_eq] at hcut
      exact ⟨s, kept ++ rest, rfl, hcut, (outcome_of_not_mem hrest).symm⟩
    · rw [hsome] at hcolon
      cases hcolon
  | case3 s start hcolon _ bad hpass =>
    obtain ⟨next, _, _, _, hok, -, -⟩ := h.exists_pass hcolon
    rw [hok] at hpass
    cases hpass
  | case4 s start hcolon _ next hpass _ ih =>
    obtain ⟨next', done', kept', rest', hok, hat, houtcome⟩ := h.exists_pass hcolon
    rw [hok] at hpass
    cases hpass
    rw [← houtcome]
    exact ih hat

end Scan

/-! ### Texts -/

/-- The scan of a text answers, and writes the pieces of the text. -/
theorem replaced_eq (text : String) :
    replaced text = .ok (if hasShortcode text.toList then
      some (String.ofList (substituteChars text.toList)) else none) := by
  unfold replaced
  by_cases hcolon : ':' ∈ text.toList
  · obtain ⟨before, after, rfl, hbefore⟩ := exists_eq_append_colon_append hcolon
    obtain ⟨text, htext⟩ : ∃ text, before ++ (":" ++ after) = text := ⟨_, rfl⟩
    have hat : Scan.At text { position := before.utf8ByteSize } "" before (":" ++ after) := by
      refine ⟨?_, rfl, ?_⟩
      · rw [String.empty_append, htext]
      · rw [String.empty_append]
    have hwhole : Scan.outcome { position := before.utf8ByteSize } before (":" ++ after) =
        (hasShortcode text.toList, substituteChars text.toList) := by
      rw [← htext, toList_append_colon_append, hasShortcode_append hbefore,
        substituteChars_append hbefore]
      simp [Scan.outcome]
    obtain ⟨final, tail, hrun, hcut, houtcome⟩ := hat.exists_run
    rw [hwhole, Prod.mk.injEq] at houtcome
    rw [idxOf?_colon hbefore, htext]
    simp only [hrun, ok_bind]
    rw [← houtcome.1, ← houtcome.2, String.ofList_toList]
    cases hwritten : final.written with
    | none => rfl
    | some written =>
      simp only [hcut]
      rfl
  · rw [(idxOf?_encodeUtf8_eq_none_iff (by decide)).mpr hcolon,
      hasShortcode_of_not_mem hcolon]
    rfl

theorem substitute?_eq (text : String) :
    substitute? text = if hasShortcode text.toList then
      some (String.ofList (substituteChars text.toList)) else none := by
  rw [substitute?, replaced_eq]
  rfl

theorem toList_substitute (text : String) :
    (substitute text).toList = substituteChars text.toList := by
  rw [substitute, substitute?_eq]
  cases hfound : hasShortcode text.toList with
  | true => rw [if_pos rfl, Option.getD_some, String.toList_ofList]
  | false =>
    rw [if_neg Bool.false_ne_true, Option.getD_none,
      substituteChars_of_hasShortcode_eq_false hfound]

end MarkdownPreview.Emoji
