import MarkdownPreview.Text.WhiteSpace

/-!
Texts that are cut at a character. The pieces do not have the character in them, and pieces that do
not have it in them are found again in the text that they make up.
-/

namespace MarkdownPreview.Text

variable {c : Char} {cs piece : List Char}

theorem splitAt_cons_self (c : Char) (cs : List Char) :
    splitAt c (c :: cs) = [] :: splitAt c cs := by
  simp [splitAt]

theorem splitAt_cons_of_ne {d : Char} (h : d ≠ c) {pieces : List (List Char)}
    (hcs : splitAt c cs = piece :: pieces) : splitAt c (d :: cs) = (d :: piece) :: pieces := by
  simp [splitAt, h, hcs]

theorem exists_splitAt_eq_cons (c : Char) (cs : List Char) :
    ∃ piece pieces, splitAt c cs = piece :: pieces := by
  induction cs with
  | nil => exact ⟨[], [], rfl⟩
  | cons d cs ih =>
    obtain ⟨piece, pieces, hcs⟩ := ih
    by_cases hd : d = c
    · subst hd
      exact ⟨[], _, splitAt_cons_self d cs⟩
    · exact ⟨d :: piece, pieces, splitAt_cons_of_ne hd hcs⟩

theorem not_mem_of_mem_splitAt (h : piece ∈ splitAt c cs) : c ∉ piece := by
  induction cs generalizing piece with
  | nil =>
    obtain rfl := List.mem_singleton.mp h
    exact List.not_mem_nil
  | cons d cs ih =>
    by_cases hd : d = c
    · subst hd
      rw [splitAt_cons_self] at h
      rcases List.mem_cons.mp h with rfl | h
      · exact List.not_mem_nil
      · exact ih h
    · obtain ⟨first, pieces, hcs⟩ := exists_splitAt_eq_cons c cs
      rw [splitAt_cons_of_ne hd hcs] at h
      rcases List.mem_cons.mp h with rfl | h
      · have hfirst : c ∉ first := ih (by simp [hcs])
        simp [hfirst, Ne.symm hd]
      · exact ih (by simp [hcs, h])

theorem splitAt_of_not_mem (h : c ∉ piece) : splitAt c piece = [piece] := by
  induction piece with
  | nil => rfl
  | cons d piece ih =>
    simp only [List.mem_cons, not_or] at h
    exact splitAt_cons_of_ne (Ne.symm h.1) (ih h.2)

theorem splitAt_append_cons (h : c ∉ piece) (cs : List Char) :
    splitAt c (piece ++ c :: cs) = piece :: splitAt c cs := by
  induction piece with
  | nil => exact splitAt_cons_self c cs
  | cons d piece ih =>
    simp only [List.mem_cons, not_or] at h
    exact splitAt_cons_of_ne (Ne.symm h.1) (ih h.2)

theorem joinWith_cons (c : Char) (piece : List Char) {pieces : List (List Char)}
    (h : pieces ≠ []) : joinWith c (piece :: pieces) = piece ++ c :: joinWith c pieces := by
  cases pieces with
  | nil => exact absurd rfl h
  | cons next pieces => rfl

theorem splitAt_append (c : Char) (cs ds : List Char) :
    splitAt c (cs ++ c :: ds) = splitAt c cs ++ splitAt c ds := by
  induction cs with
  | nil => exact splitAt_cons_self c ds
  | cons d cs ih =>
    by_cases hd : d = c
    · subst hd
      rw [List.cons_append, splitAt_cons_self, splitAt_cons_self, ih, List.cons_append]
    · obtain ⟨piece, pieces, hcs⟩ := exists_splitAt_eq_cons c cs
      rw [hcs, List.cons_append] at ih
      rw [List.cons_append, splitAt_cons_of_ne hd ih, splitAt_cons_of_ne hd hcs, List.cons_append]

theorem not_mem_takeWhile (c : Char) (cs : List Char) : c ∉ cs.takeWhile (· != c) := by
  intro h
  have hne := List.all_eq_true.mp List.all_takeWhile c h
  simp at hne

/-- A text is all of one piece, or has a first piece and the character after it. -/
theorem eq_takeWhile_or_exists (c : Char) (cs : List Char) :
    cs = cs.takeWhile (· != c) ∨ ∃ rest, cs = cs.takeWhile (· != c) ++ c :: rest := by
  have hsplit := List.takeWhile_append_dropWhile (p := (· != c)) (l := cs)
  have hhead := List.head?_dropWhile_not (· != c) cs
  cases hrest : cs.dropWhile (· != c) with
  | nil =>
    rw [hrest, List.append_nil] at hsplit
    exact .inl hsplit.symm
  | cons d rest =>
    rw [hrest] at hsplit hhead
    obtain rfl : d = c := by simpa using hhead
    exact .inr ⟨rest, hsplit.symm⟩

theorem head?_splitAt (c : Char) (cs : List Char) :
    (splitAt c cs).head? = some (cs.takeWhile (· != c)) := by
  have hpiece := not_mem_takeWhile c cs
  generalize hfirst : cs.takeWhile (· != c) = first at hpiece
  rcases eq_takeWhile_or_exists c cs with h | ⟨rest, h⟩
  · rw [h, hfirst, splitAt_of_not_mem hpiece]
    rfl
  · rw [h, hfirst, splitAt_append_cons hpiece]
    rfl

theorem getLast?_splitAt (c : Char) (cs : List Char) :
    (splitAt c cs).getLast? = some (cs.reverse.takeWhile (· != c)).reverse := by
  have hpiece := not_mem_takeWhile c cs.reverse
  generalize hlast : cs.reverse.takeWhile (· != c) = last at hpiece
  rw [← List.mem_reverse] at hpiece
  rcases eq_takeWhile_or_exists c cs.reverse with h | ⟨rest, h⟩
  · rw [hlast, List.reverse_eq_iff] at h
    rw [h, splitAt_of_not_mem hpiece]
    rfl
  · rw [hlast, List.reverse_eq_iff, List.reverse_append, List.reverse_cons, List.append_assoc,
      List.singleton_append] at h
    rw [h, splitAt_append, splitAt_of_not_mem hpiece, List.getLast?_concat]

theorem joinWith_append (c : Char) {pieces others : List (List Char)} (h : pieces ≠ [])
    (hothers : others ≠ []) :
    joinWith c (pieces ++ others) = joinWith c pieces ++ c :: joinWith c others := by
  induction pieces with
  | nil => exact absurd rfl h
  | cons piece pieces ih =>
    cases pieces with
    | nil => exact joinWith_cons c piece hothers
    | cons next pieces =>
      rw [List.cons_append, joinWith_cons c piece (by simp), ih (by simp),
        joinWith_cons c piece (by simp), List.append_assoc, List.cons_append]

/-- Pieces without the character are found again. -/
theorem splitAt_joinWith {pieces : List (List Char)} (hne : pieces ≠ [])
    (h : ∀ piece ∈ pieces, c ∉ piece) : splitAt c (joinWith c pieces) = pieces := by
  induction pieces with
  | nil => exact absurd rfl hne
  | cons piece pieces ih =>
    have hpiece : c ∉ piece := h piece List.mem_cons_self
    cases pieces with
    | nil => exact splitAt_of_not_mem hpiece
    | cons next pieces =>
      rw [joinWith_cons c piece (by simp), splitAt_append_cons hpiece,
        ih (by simp) fun p hp => h p (List.mem_cons_of_mem piece hp)]

end MarkdownPreview.Text
