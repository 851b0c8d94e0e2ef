import Mathlib.Data.List.Infix

/-!
Searching a text for a pattern. A text that avoids a pattern can be passed over: the pattern is
found where it first stands in what comes after.
-/

namespace MarkdownPreview.Text

/-- What stands before the first place of a pattern. -/
def before? (pattern text : String) : Option String :=
  (text.toList.dropInfix? pattern.toList).map fun cut => String.ofList cut.1

/-- What stands after the first place of a pattern. -/
def after? (pattern text : String) : Option String :=
  (text.toList.dropInfix? pattern.toList).map fun cut => String.ofList cut.2

/-- What stands before the last place of a pattern. -/
def beforeLast? (pattern text : String) : Option String :=
  (text.toList.reverse.dropInfix? pattern.toList.reverse).map fun cut =>
    String.ofList cut.2.reverse

example : before? "</" "a</b></b>" = some "a" ∧ beforeLast? "</" "a</b></b>" = some "a</b>" ∧
    after? "<p" "a</b" = none := by
  decide +kernel

/-- However a text goes on, it is over before a pattern begins. -/
def Avoids (pattern text : String) : Prop :=
  ∀ before after rest,
    text.toList ++ rest = before ++ pattern.toList ++ after → text.toList <+: before

/-- Whether a pattern begins at no character of a text, nor could with other characters after
it. -/
def isAvoided (pattern : List Char) : List Char → Bool
  | [] => true
  | c :: cs =>
    !pattern.isPrefixOf (c :: cs) && !(c :: cs).isPrefixOf pattern && isAvoided pattern cs

variable {pattern s t : String}

theorem Avoids.empty : Avoids pattern "" := fun _ _ _ _ => List.nil_prefix

theorem Avoids.append (hs : Avoids pattern s) (ht : Avoids pattern t) :
    Avoids pattern (s ++ t) := by
  intro before after rest h
  rw [String.toList_append, List.append_assoc] at h
  obtain ⟨more, rfl⟩ := hs before after _ h
  rw [List.append_assoc, List.append_assoc, List.append_cancel_left_eq, ← List.append_assoc] at h
  rw [String.toList_append, List.prefix_append_right_inj]
  exact ht more after rest h

theorem Avoids.join {l : List String} (h : ∀ s ∈ l, Avoids pattern s) :
    Avoids pattern (String.join l) := by
  induction l with
  | nil => exact .empty
  | cons s l ih =>
    obtain ⟨hs, hl⟩ := List.forall_mem_cons.mp h
    rw [String.join_cons]
    exact hs.append (ih hl)

theorem Avoids.intercalate (hs : Avoids pattern s) {l : List String}
    (h : ∀ t ∈ l, Avoids pattern t) : Avoids pattern (s.intercalate l) := by
  induction l with
  | nil => exact .empty
  | cons t l ih =>
    obtain ⟨ht, hl⟩ := List.forall_mem_cons.mp h
    cases l with
    | nil => exact ht
    | cons t' l =>
      rw [String.intercalate_cons_cons]
      exact (ht.append hs).append (ih hl)

theorem Avoids.ofList {ps cs : List Char} (h : isAvoided ps cs) :
    Avoids (String.ofList ps) (String.ofList cs) := by
  intro before after rest hparts
  rw [String.toList_ofList] at hparts ⊢
  rw [String.toList_ofList] at hparts
  induction cs generalizing before with
  | nil => exact List.nil_prefix
  | cons c cs ih =>
    simp only [isAvoided, Bool.and_eq_true, Bool.not_eq_true', Bool.eq_false_iff, ne_eq,
      List.isPrefixOf_iff_prefix] at h
    obtain ⟨⟨hpattern, htext⟩, hcs⟩ := h
    cases before with
    | nil =>
      -- of two texts that begin the same text one begins the other
      have hbegins : ps <+: c :: cs ++ rest := ⟨after, hparts.symm⟩
      rcases List.prefix_or_prefix_of_prefix hbegins (List.prefix_append (c :: cs) rest) with h | h
      · exact absurd h hpattern
      · exact absurd h htext
    | cons d before =>
      rw [List.cons_append, List.cons_append, List.cons_append, List.cons.injEq] at hparts
      obtain ⟨rfl, hparts⟩ := hparts
      exact List.cons_prefix_cons.mpr ⟨rfl, ih hcs before hparts⟩

/-- A text without a pattern's first character avoids the pattern. -/
theorem Avoids.of_not_mem {c : Char} (h : c ∉ s.toList) (more : List Char) :
    Avoids (String.ofList (c :: more)) s := by
  intro before after rest hparts
  rw [String.toList_ofList, List.append_assoc] at hparts
  rcases List.append_eq_append_iff.mp hparts with ⟨gap, hbefore, -⟩ | ⟨gap, htext, hrest⟩
  · exact ⟨gap, hbefore.symm⟩
  · cases gap with
    | nil => exact ⟨[], by rw [htext, List.append_nil, List.append_nil]⟩
    | cons d gap =>
      obtain ⟨rfl, -⟩ := List.cons.inj hrest
      rw [htext] at h
      exact absurd (List.mem_append_right before List.mem_cons_self) h

/-- A text avoids a longer pattern, too. -/
theorem Avoids.of_longer {longer : String} (h : pattern.toList <+: longer.toList)
    (hs : Avoids pattern s) : Avoids longer s := by
  obtain ⟨more, hmore⟩ := h
  intro before after rest hparts
  refine hs before (more ++ after) rest ?_
  rw [hparts, ← hmore]
  simp only [List.append_assoc]

/-- A text that a pattern does not stand in avoids it, once a character follows that the pattern
does not have. -/
theorem Avoids.append_singleton {c : Char} (h : ¬pattern.toList <:+: s.toList)
    (hc : c ∉ pattern.toList) : Avoids pattern (s ++ String.singleton c) := by
  intro before after rest hparts
  rw [String.toList_append, String.toList_singleton, List.append_assoc] at hparts
  rw [String.toList_append, String.toList_singleton]
  rcases List.append_eq_append_iff.mp hparts with ⟨gap, hfound, hrest⟩ | ⟨gap, htext, -⟩
  · cases gap with
    | nil =>
      rw [List.append_nil] at hfound
      exact absurd ⟨before, [], by rw [List.append_nil, hfound]⟩ h
    | cons d gap =>
      obtain ⟨rfl, -⟩ := List.cons.inj hrest
      -- the pattern is over before the character, or begins after it
      rcases List.append_eq_append_iff.mp hfound with ⟨left, -, hleft⟩ | ⟨left, hbefore, hleft⟩
      · exact absurd (hleft ▸ List.mem_append_right left List.mem_cons_self) hc
      · rcases List.cons_eq_append_iff.mp hleft with ⟨-, hpattern⟩ | ⟨left, rfl, -⟩
        · exact absurd (hpattern ▸ List.mem_cons_self) hc
        · exact ⟨left, by rw [hbefore, List.append_assoc, List.singleton_append]⟩
  · exact absurd ⟨before, gap, htext.symm⟩ h

/-- No pattern stands in a text that avoids it. -/
theorem Avoids.not_infix (hs : Avoids pattern s) (h : pattern ≠ "") :
    ¬pattern.toList <:+: s.toList := by
  rintro ⟨before, after, hparts⟩
  have hle := (hs before after [] (by rw [List.append_nil, hparts])).length_le
  have hlength := congrArg List.length hparts
  have hpos : 0 < pattern.toList.length :=
    List.length_pos_iff.mpr fun hnil => h (String.toList_eq_nil_iff.mp hnil)
  simp only [List.length_append] at hlength
  omega

/-! ### Where a pattern is found -/

theorem dropInfix?_of_avoids (h : Avoids pattern s) (rest : List Char) :
    (s.toList ++ (pattern.toList ++ rest)).dropInfix? pattern.toList = some (s.toList, rest) := by
  rw [List.dropInfix?_eq_some_iff]
  refine ⟨⟨pattern.toList, (List.append_assoc _ _ _).symm, beq_self_eq_true _⟩, ?_⟩
  intro before found after hparts hfound
  rw [beq_iff_eq] at hfound
  rw [hfound] at hparts
  exact (h before after _ hparts).length_le

theorem before?_of_avoids (h : Avoids pattern s) (rest : String) :
    before? pattern (s ++ (pattern ++ rest)) = some s := by
  simp [before?, dropInfix?_of_avoids h]

theorem after?_of_avoids (h : Avoids pattern s) (rest : String) :
    after? pattern (s ++ (pattern ++ rest)) = some rest := by
  simp [after?, dropInfix?_of_avoids h]

/-- The last place is found from the end. -/
theorem beforeLast?_of_isAvoided {ps cs : List Char} (h : isAvoided ps.reverse cs.reverse)
    (s : String) :
    beforeLast? (String.ofList ps) (s ++ (String.ofList ps ++ String.ofList cs)) = some s := by
  have hcut := dropInfix?_of_avoids (Avoids.ofList h) s.toList.reverse
  rw [String.toList_ofList, String.toList_ofList] at hcut
  simp [beforeLast?, hcut]

end MarkdownPreview.Text
