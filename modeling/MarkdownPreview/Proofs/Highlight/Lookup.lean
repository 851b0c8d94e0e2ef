import Mathlib.Data.List.Forall2
import MarkdownPreview.Highlight.Code

/-!
Which language a name stands for. The table is searched from its end, first for an extension and
then for a name, and once more for the name as it is written. The searches come to a relation that
does not look at the case of ASCII letters; the last of them never finds anything. A language that
is declared is the same whatever the code is.
-/

namespace MarkdownPreview.Highlight

/-! ### Texts that differ in case -/

/-- A capital ASCII letter with its small one. -/
def IsCapitalOf (c d : Char) : Prop := c.isUpper ∧ d.toNat = c.toNat + 32

def SameLetter (c d : Char) : Prop := c = d ∨ IsCapitalOf c d ∨ IsCapitalOf d c

/-- Texts of the same characters but for the case of ASCII letters. -/
def SameText (s t : String) : Prop := List.Forall₂ SameLetter s.toList t.toList

theorem isUpper_iff {c : Char} : c.isUpper ↔ 65 ≤ c.toNat ∧ c.toNat ≤ 90 := by
  change decide (65 ≤ c.val ∧ c.val ≤ 90) = true ↔ _
  rw [decide_eq_true_iff, UInt32.le_iff_toNat_le, UInt32.le_iff_toNat_le]
  rfl

theorem toNat_toLower (c : Char) :
    c.toLower.toNat = if c.isUpper then c.toNat + 32 else c.toNat := by
  have hcapital : c.val ≥ 'A'.val ∧ c.val ≤ 'Z'.val ↔ c.isUpper := by
    rw [isUpper_iff, ge_iff_le, UInt32.le_iff_toNat_le, UInt32.le_iff_toNat_le]
    rfl
  delta Char.toLower
  split
  case isTrue h =>
    have hle : c.val.toNat ≤ 90 := (isUpper_iff.mp (hcapital.mp h)).2
    have hsmall : (c.val + 32).toNat = c.val.toNat + 32 := by
      rw [UInt32.toNat_add]
      refine Nat.mod_eq_of_lt ?_
      change c.val.toNat + 32 < _
      omega
    rw [if_pos (hcapital.mp h)]
    exact hsmall
  case isFalse h => rw [if_neg fun hupper => h (hcapital.mpr hupper)]

theorem sameLetter_iff {c d : Char} : SameLetter c d ↔ c.toLower = d.toLower := by
  rw [SameLetter, IsCapitalOf, IsCapitalOf, ← Char.toNat_inj, ← Char.toNat_inj, toNat_toLower,
    toNat_toLower]
  simp only [isUpper_iff]
  split <;> split <;> omega

theorem sameText_iff_map {s t : String} :
    SameText s t ↔ s.toList.map Char.toLower = t.toList.map Char.toLower := by
  have hletters : SameLetter = fun c d => c.toLower = d.toLower := by
    funext c d
    exact propext sameLetter_iff
  rw [SameText, hletters, ← List.forall₂_eq_eq_eq, List.forall₂_map_left_iff,
    List.forall₂_map_right_iff]

instance (s t : String) : Decidable (SameText s t) := decidable_of_iff _ sameText_iff_map.symm

theorem sameText_iff {s t : String} : SameText s t ↔ s.toLower = t.toLower := by
  change _ ↔ s.map Char.toLower = t.map Char.toLower
  rw [sameText_iff_map, ← String.toList_inj, String.toList_map, String.toList_map]

theorem eqAnyCase_iff {s t : String} : eqAnyCase s t ↔ SameText s t := by
  rw [eqAnyCase, beq_iff_eq, sameText_iff]

/-! ### Searching a table from its end -/

/-- The last row of a table with a property. -/
def IsLast (table : List Language) (P : Language → Prop) (row : Language) : Prop :=
  ∃ before after, table = before ++ row :: after ∧ P row ∧ ∀ other ∈ after, ¬P other

section

variable {table : List Language} {test : Language → Bool} {P : Language → Prop}

theorem findLast?_eq_some_iff (h : ∀ row, test row ↔ P row) {row : Language} :
    findLast? table test = some row ↔ IsLast table P row := by
  rw [findLast?, List.find?_eq_some_iff_append, h]
  constructor
  · rintro ⟨hrow, after, before, htable, hafter⟩
    refine ⟨before.reverse, after.reverse, ?_, hrow, fun other hother => ?_⟩
    · rw [← List.reverse_inj, htable]
      simp
    · have htest := hafter other (List.mem_reverse.mp hother)
      rwa [Bool.not_eq_true', Bool.eq_false_iff, ne_eq, h] at htest
  · rintro ⟨before, after, rfl, hrow, hafter⟩
    refine ⟨hrow, after.reverse, before.reverse, by simp, fun other hother => ?_⟩
    rw [Bool.not_eq_true', Bool.eq_false_iff, ne_eq, h]
    exact hafter other (List.mem_reverse.mp hother)

theorem findLast?_eq_none_iff (h : ∀ row, test row ↔ P row) :
    findLast? table test = none ↔ ∀ row ∈ table, ¬P row := by
  simp only [findLast?, List.find?_eq_none, List.mem_reverse, h]

end

/-! ### Names -/

def HasExtension (name : String) (row : Language) : Prop :=
  ∃ extension ∈ row.extensions, SameText name extension

instance (name : String) (row : Language) : Decidable (HasExtension name row) :=
  inferInstanceAs (Decidable (∃ extension ∈ row.extensions, _))

/-- The language that a name stands for: the last one with such an extension or, if none has it,
the last one of that name. -/
inductive StandsFor (table : List Language) (name : String) (row : Language) : Prop
  | extension (h : IsLast table (HasExtension name) row)
  | name (hnone : ∀ other ∈ table, ¬HasExtension name other)
      (h : IsLast table (fun other => SameText name other.name) row)

variable {table : List Language} {name name' : String}

theorem any_extensions_iff (row : Language) :
    row.extensions.any (eqAnyCase name) ↔ HasExtension name row := by
  simp only [List.any_eq_true, eqAnyCase_iff, HasExtension]

theorem byToken?_eq_some_iff {row : Language} :
    byToken? table name = some row ↔ StandsFor table name row := by
  have hname (other : Language) : eqAnyCase name other.name ↔ SameText name other.name :=
    eqAnyCase_iff
  rw [byToken?, Option.or_eq_some_iff, findLast?_eq_some_iff any_extensions_iff,
    findLast?_eq_none_iff any_extensions_iff, findLast?_eq_some_iff hname]
  constructor
  · rintro (h | ⟨hnone, h⟩)
    · exact .extension h
    · exact .name hnone h
  · rintro (h | ⟨hnone, h⟩)
    · exact .inl h
    · exact .inr ⟨hnone, h⟩

/-- A language of exactly that name is of that name in any case. -/
theorem byName?_eq_none_of_byToken? (h : byToken? table name = none) :
    byName? table name = none := by
  have hname (other : Language) : (other.name == name) ↔ other.name = name := beq_iff_eq
  have hanyCase (other : Language) : eqAnyCase name other.name ↔ SameText name other.name :=
    eqAnyCase_iff
  rw [byToken?, Option.or_eq_none_iff, findLast?_eq_none_iff hanyCase] at h
  rw [byName?, findLast?_eq_none_iff hname]
  rintro other hother rfl
  exact h.2 other hother (sameText_iff.mpr rfl)

theorem get?_eq_byToken? (table : List Language) (name : String) :
    get? table name = byToken? table name := by
  rw [get?]
  cases h : byToken? table name with
  | some row => rfl
  | none => rw [byName?_eq_none_of_byToken? h, Option.or_none]

theorem get?_congr (h : SameText name name') : get? table name = get? table name' := by
  have hsame : eqAnyCase name = eqAnyCase name' := by
    funext other
    rw [eqAnyCase, eqAnyCase, sameText_iff.mp h]
  rw [get?_eq_byToken?, get?_eq_byToken?, byToken?, byToken?, hsame]

/-! ### The language of a code block -/

/-- Where a table has a plain-text row, the last one is what code in no other language is in. -/
theorem isLast_plainText (h : ∃ row ∈ table, row.name = "Plain Text") :
    IsLast table (fun row => row.name = "Plain Text") (plainText table) := by
  have hname (row : Language) : (row.name == "Plain Text") ↔ row.name = "Plain Text" := beq_iff_eq
  cases hplain : byName? table "Plain Text" with
  | none =>
    obtain ⟨row, hrow, hcalled⟩ := h
    exact absurd hcalled ((findLast?_eq_none_iff hname).mp hplain row hrow)
  | some row =>
    rw [plainText, hplain, Option.getD_some]
    exact (findLast?_eq_some_iff hname).mp hplain

theorem resolve_some (table : List Language) (name content : String) :
    resolve table (some name) content = (get? table name).getD (plainText table) := rfl

/-- Over a table with a plain-text row, a name stands for the same language in capitals and in
small letters, the search for the exact name makes no difference, and a declared language is the
same for all code: the language that the name stands for, or else plain text. -/
theorem lookup_ignores_case_and_falls_back (table : List Language)
    (h : ∃ row ∈ table, row.name = "Plain Text") :
    (∀ name row, get? table name = some row ↔ StandsFor table name row) ∧
      (∀ name name', SameText name name' → get? table name = get? table name') ∧
      (∀ name, get? table name = byToken? table name) ∧
      (∀ name content content',
        resolve table (some name) content = resolve table (some name) content') ∧
      ∃ plain, IsLast table (fun row => row.name = "Plain Text") plain ∧
        ∀ name content, resolve table (some name) content = plain ↔
          get? table name = none ∨ get? table name = some plain := by
  refine ⟨fun name row => ?_, fun name name' => get?_congr, get?_eq_byToken? table,
    fun _ _ _ => rfl, plainText table, isLast_plainText h, fun name content => ?_⟩
  · rw [get?_eq_byToken?, byToken?_eq_some_iff]
  · rw [resolve_some]
    cases get? table name with
    | none => simp
    | some row => simp

/-- A name that is the extension of one language and the name of another, further down. -/
theorem lookup_asp :
    let html : Language := ⟨"HTML (ASP)", "text.html.asp", ["asp"], none⟩
    let table : List Language :=
      [⟨"Plain Text", "text.plain", ["txt"], none⟩, html, ⟨"ASP", "source.asp", ["asa"], none⟩]
    (∃ row ∈ table, row.name = "Plain Text") ∧ SameText "ASP" "aSp" ∧
      get? table "ASP" = some html ∧ get? table "aSp" = some html ∧
      resolve table (some "aSp") "<?xml " = resolve table (some "aSp") "" := by
  intro html table
  have hplain : ∃ row ∈ table, row.name = "Plain Text" := ⟨_, List.mem_cons_self, rfl⟩
  have hsame : SameText "ASP" "aSp" := by decide
  have hstands : StandsFor table "ASP" html :=
    .extension ⟨[_], [_], rfl, by decide, by decide⟩
  obtain ⟨hget, hcase, -, hcontent, -⟩ := lookup_ignores_case_and_falls_back table hplain
  have hhtml : get? table "ASP" = some html := (hget "ASP" html).mpr hstands
  exact ⟨hplain, hsame, hhtml, (hcase _ _ hsame).symm.trans hhtml, hcontent _ _ _⟩

end MarkdownPreview.Highlight
