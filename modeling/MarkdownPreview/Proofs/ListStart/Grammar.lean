import Mathlib.Data.List.TakeWhile
import MarkdownPreview.ListStart
import MarkdownPreview.Proofs.Text.Ascii
import MarkdownPreview.Text.WhiteSpace

/-!
The grammar of lines that start a list. It says what may follow what, and leaves open where one
part ends; dropping as many quote markers as there are, and then taking as many digits as there are,
accepts the lines of the grammar and no others.
-/

namespace MarkdownPreview.ListStart

open Text

/-- Quote markers, each with any number of spaces and tabs after it. -/
inductive Quotes : List Char → Prop
  | nil : Quotes []
  | marker {blanks rest : List Char} (h : ∀ c ∈ blanks, c = ' ' ∨ c = '\t') (hrest : Quotes rest) :
    Quotes ('>' :: (blanks ++ rest))

/-- A bullet and a space, or a decimal number, a point or a parenthesis, and a space. -/
inductive Mark : List Char → Prop
  | bullet {c : Char} (h : c ∈ ['-', '*', '+']) : Mark [c, ' ']
  | number {digits : List Char} {c : Char} (hne : digits ≠ []) (hdigits : ∀ d ∈ digits, d.isDigit)
    (h : c ∈ ['.', ')']) : Mark (digits ++ [c, ' '])

/-- Quote markers, a mark, and anything. -/
def Starts (cs : List Char) : Prop :=
  ∃ quotes mark rest, Quotes quotes ∧ Mark mark ∧ cs = quotes ++ (mark ++ rest)

/-! ### Quote markers -/

/-- Characters that are dropped after a quote marker. -/
def isDropped (c : Char) : Bool := c == '>' || c == ' ' || c == '\t'

theorem dropQuotes_blanks {blanks : List Char} (h : ∀ c ∈ blanks, c = ' ' ∨ c = '\t')
    (rest : List Char) : dropQuotes true (blanks ++ rest) = dropQuotes true rest := by
  induction blanks with
  | nil => rfl
  | cons c blanks ih =>
    rw [List.cons_append]
    rcases h c List.mem_cons_self with rfl | rfl
    all_goals exact ih fun d hd => h d (List.mem_cons_of_mem _ hd)

theorem dropQuotes_of_head {rest : List Char} (h : rest.head?.any isDropped = false)
    (inQuote : Bool) : dropQuotes inQuote rest = rest := by
  cases rest with
  | nil => rfl
  | cons c rest =>
    simp only [List.head?_cons, Option.any_some, isDropped, Bool.or_eq_false_iff,
      beq_eq_false_iff_ne] at h
    obtain ⟨⟨hquote, hspace⟩, htab⟩ := h
    simp [dropQuotes, hspace, htab]

/-- All quote markers are dropped. -/
theorem dropQuotes_append {quotes rest : List Char} (h : Quotes quotes)
    (hrest : rest.head?.any isDropped = false) (inQuote : Bool) :
    dropQuotes inQuote (quotes ++ rest) = rest := by
  induction h generalizing inQuote with
  | nil => exact dropQuotes_of_head hrest inQuote
  | @marker blanks quotes hblanks _ ih =>
    rw [List.cons_append, List.append_assoc, dropQuotes, dropQuotes_blanks hblanks, ih]

/-- What is dropped are blanks, if a quote marker came before, and quote markers. -/
theorem exists_quotes (inQuote : Bool) (cs : List Char) :
    ∃ blanks quotes, (∀ c ∈ blanks, c = ' ' ∨ c = '\t') ∧ (inQuote = false → blanks = []) ∧
      Quotes quotes ∧ cs = blanks ++ (quotes ++ dropQuotes inQuote cs) := by
  fun_induction dropQuotes inQuote cs with
  | case1 inQuote rest ih =>
    obtain ⟨blanks, quotes, hblanks, -, hquotes, hrest⟩ := ih
    refine ⟨[], '>' :: (blanks ++ quotes), by simp, by simp, .marker hblanks hquotes, ?_⟩
    simpa using hrest
  | case2 inQuote c rest _ hc ih =>
    obtain ⟨blanks, quotes, hblanks, -, hquotes, hrest⟩ := ih
    simp only [Bool.and_eq_true, Bool.or_eq_true, beq_iff_eq] at hc
    refine ⟨c :: blanks, quotes, ?_, by simp [hc.1], hquotes, ?_⟩
    · intro d hd
      rcases List.mem_cons.mp hd with rfl | hd
      · exact hc.2
      · exact hblanks d hd
    · rw [List.cons_append, ← hrest]
  | case3 inQuote c rest _ _ => exact ⟨[], [], by simp, by simp, .nil, rfl⟩
  | case4 => exact ⟨[], [], by simp, by simp, .nil, rfl⟩

theorem exists_eq_append_dropQuotes (cs : List Char) :
    ∃ quotes, Quotes quotes ∧ cs = quotes ++ dropQuotes false cs := by
  obtain ⟨blanks, quotes, -, hnil, hquotes, hcs⟩ := exists_quotes false cs
  obtain rfl := hnil rfl
  exact ⟨quotes, hquotes, hcs⟩

/-! ### Marks, byte by byte -/

/-- The bytes between the end of the digits and two bytes further, if there are two. -/
theorem bytesBetween?_digits (bytes : List UInt8) :
    bytesBetween? bytes (bytes.takeWhile isDigitByte).length
        ((bytes.takeWhile isDigitByte).length + 2) =
      if (bytes.dropWhile isDigitByte).length < 2 then none
      else some ((bytes.dropWhile isDigitByte).take 2) := by
  have hsplit := List.takeWhile_append_dropWhile (p := isDigitByte) (l := bytes)
  generalize bytes.takeWhile isDigitByte = digits at hsplit
  generalize bytes.dropWhile isDigitByte = after at hsplit
  subst hsplit
  unfold bytesBetween?
  by_cases hlength : after.length < 2
  · have hshort : ¬(digits.length ≤ digits.length + 2 ∧
        digits.length + 2 ≤ (digits ++ after).length) := by
      rw [List.length_append]
      omega
    rw [if_neg hshort, if_pos hlength]
  · have hlong : digits.length ≤ digits.length + 2 ∧
        digits.length + 2 ≤ (digits ++ after).length := by
      rw [List.length_append]
      omega
    rw [if_pos hlong, if_neg hlength]
    simp [List.extract_eq_take_drop]

/-- One of some ASCII characters, then a space, in the bytes of a text. -/
theorem exists_encodeUtf8_eq_iff {marks cs : List Char} (h : ∀ c ∈ marks, c.toNat < 128) :
    (∃ c ∈ marks, ∃ after, encodeUtf8 cs = c.toUInt8 :: ' '.toUInt8 :: after) ↔
      ∃ c ∈ marks, ∃ rest, cs = c :: ' ' :: rest := by
  have hspace : ' '.toNat < 128 := by decide
  constructor
  · rintro ⟨c, hc, after, hcs⟩
    obtain ⟨spaced, rfl, hspaced⟩ := (encodeUtf8_eq_cons_iff (h c hc)).mp hcs
    obtain ⟨rest, rfl, -⟩ := (encodeUtf8_eq_cons_iff hspace).mp hspaced
    exact ⟨c, hc, rest, rfl⟩
  · rintro ⟨c, hc, rest, rfl⟩
    refine ⟨c, hc, encodeUtf8 rest, (encodeUtf8_eq_cons_iff (h c hc)).mpr ⟨_, rfl, ?_⟩⟩
    exact (encodeUtf8_eq_cons_iff hspace).mpr ⟨rest, rfl, rfl⟩

theorem isBullet_iff {bytes : List UInt8} :
    isBullet bytes = true ↔
      ∃ c ∈ ['-', '*', '+'], ∃ after, bytes = c.toUInt8 :: ' '.toUInt8 :: after := by
  constructor
  · intro h
    unfold isBullet at h
    split at h
    case h_1 bullet space after =>
      simp only [Bool.and_eq_true, Bool.or_eq_true, beq_iff_eq] at h
      obtain ⟨(rfl | rfl) | rfl, rfl⟩ := h
      · exact ⟨'-', by simp, after, rfl⟩
      · exact ⟨'*', by simp, after, rfl⟩
      · exact ⟨'+', by simp, after, rfl⟩
    case h_2 => cases h
  · rintro ⟨c, hc, after, rfl⟩
    simp only [List.mem_cons, List.not_mem_nil, or_false] at hc
    rcases hc with rfl | rfl | rfl
    all_goals rfl

theorem isBullet_encodeUtf8_iff {cs : List Char} :
    isBullet (encodeUtf8 cs) = true ↔ ∃ c ∈ ['-', '*', '+'], ∃ rest, cs = c :: ' ' :: rest := by
  rw [isBullet_iff, exists_encodeUtf8_eq_iff (by simp)]

theorem isNumber_iff {bytes : List UInt8} :
    isNumber bytes = true ↔ bytes.takeWhile isDigitByte ≠ [] ∧
      ∃ c ∈ ['.', ')'], ∃ after,
        bytes.dropWhile isDigitByte = c.toUInt8 :: ' '.toUInt8 :: after := by
  simp only [isNumber, bytesBetween?_digits, List.length_eq_zero_iff]
  generalize bytes.takeWhile isDigitByte = digits
  generalize bytes.dropWhile isDigitByte = after
  by_cases hdigits : digits = []
  · simp [hdigits]
  · rw [if_neg hdigits]
    constructor
    · intro h
      refine ⟨hdigits, ?_⟩
      match after with
      | [] | [_] => cases h
      | mark :: space :: after =>
        have hlong : ¬(mark :: space :: after).length < 2 := by simp
        simp only [if_neg hlong, List.take_succ_cons, List.take_zero, Bool.and_eq_true,
          Bool.or_eq_true, beq_iff_eq] at h
        obtain ⟨rfl | rfl, rfl⟩ := h
        · exact ⟨'.', by simp, after, rfl⟩
        · exact ⟨')', by simp, after, rfl⟩
    · rintro ⟨-, c, hc, after, rfl⟩
      simp only [List.mem_cons, List.not_mem_nil, or_false] at hc
      rcases hc with rfl | rfl
      all_goals rfl

/-- Where the line ends too early there is no number. -/
theorem isNumber_of_short {bytes : List UInt8} (h : (bytes.dropWhile isDigitByte).length < 2) :
    isNumber bytes = false := by
  rw [← Bool.not_eq_true, isNumber_iff]
  rintro ⟨-, c, -, after, hafter⟩
  rw [hafter, List.length_cons, List.length_cons] at h
  omega

theorem takeWhile_isDigitByte (cs : List Char) :
    (encodeUtf8 cs).takeWhile isDigitByte = encodeUtf8 (cs.takeWhile Char.isDigit) :=
  takeWhile_encodeUtf8 isAscii_isDigit cs

theorem dropWhile_isDigitByte (cs : List Char) :
    (encodeUtf8 cs).dropWhile isDigitByte = encodeUtf8 (cs.dropWhile Char.isDigit) :=
  dropWhile_encodeUtf8 isAscii_isDigit cs

theorem isNumber_encodeUtf8_iff {cs : List Char} :
    isNumber (encodeUtf8 cs) = true ↔ cs.takeWhile Char.isDigit ≠ [] ∧
      ∃ c ∈ ['.', ')'], ∃ rest, cs.dropWhile Char.isDigit = c :: ' ' :: rest := by
  rw [isNumber_iff, takeWhile_isDigitByte, dropWhile_isDigitByte, ne_eq, encodeUtf8_eq_nil_iff,
    exists_encodeUtf8_eq_iff (by simp)]

/-! ### Lines -/

/-- A bullet or a digit comes first in a mark. -/
theorem Mark.head {mark : List Char} (h : Mark mark) :
    ∃ c cs, mark = c :: cs ∧ (c ∈ ['-', '*', '+'] ∨ c.isDigit = true) := by
  cases h with
  | @bullet c h => exact ⟨c, [' '], rfl, .inl h⟩
  | @number digits c hne hdigits h =>
    cases digits with
    | nil => exact absurd rfl hne
    | cons d digits => exact ⟨d, digits ++ [c, ' '], rfl, .inr (hdigits d List.mem_cons_self)⟩

theorem isDropped_eq_false_of_head {c : Char} (h : c ∈ ['-', '*', '+'] ∨ c.isDigit = true) :
    isDropped c = false ∧ isWhiteSpace c = false := by
  rcases h with h | h
  · simp only [List.mem_cons, List.not_mem_nil, or_false] at h
    rcases h with rfl | rfl | rfl
    all_goals decide
  · have hbounds : 48 ≤ c.toNat ∧ c.toNat ≤ 57 := by
      simp only [Char.isDigit, Bool.and_eq_true, decide_eq_true_eq] at h
      exact ⟨UInt32.le_iff_toNat_le.mp h.1, UInt32.le_iff_toNat_le.mp h.2⟩
    have hne {d : Char} (hd : d.toNat < 48 ∨ 57 < d.toNat) : c ≠ d := by
      rintro rfl
      omega
    constructor
    · have hquote : c ≠ '>' := hne (by decide)
      have hspace : c ≠ ' ' := hne (by decide)
      have htab : c ≠ '\t' := hne (by decide)
      simp [isDropped, hquote, hspace, htab]
    · simp [isWhiteSpace]
      omega

/-- What is left after the quote markers begins with a mark. -/
theorem startsList_iff {cs : List Char} : startsList cs = true ↔ Starts cs := by
  simp only [startsList, Bool.or_eq_true, isBullet_encodeUtf8_iff, isNumber_encodeUtf8_iff]
  constructor
  · intro h
    obtain ⟨quotes, hquotes, hcs⟩ := exists_eq_append_dropQuotes cs
    generalize dropQuotes false cs = rest at h hcs
    rcases h with ⟨c, hc, rest, rfl⟩ | ⟨hne, c, hc, after, hafter⟩
    · exact ⟨quotes, [c, ' '], rest, hquotes, .bullet hc, hcs⟩
    · have hdigits : ∀ d ∈ rest.takeWhile Char.isDigit, d.isDigit := fun _ hd =>
        List.mem_takeWhile_imp hd
      have hsplit := List.takeWhile_append_dropWhile (p := Char.isDigit) (l := rest)
      have hrest : rest = (rest.takeWhile Char.isDigit ++ [c, ' ']) ++ after := by
        rw [List.append_assoc]
        rw [hafter] at hsplit
        exact hsplit.symm
      exact ⟨quotes, _, after, hquotes, .number hne hdigits hc, hcs.trans (congrArg _ hrest)⟩
  · rintro ⟨quotes, mark, rest, hquotes, hmark, rfl⟩
    obtain ⟨first, others, hfirst, hhead⟩ := hmark.head
    have hdropped : (mark ++ rest).head?.any isDropped = false := by
      rw [hfirst]
      exact (isDropped_eq_false_of_head hhead).1
    rw [dropQuotes_append hquotes hdropped]
    cases hmark with
    | @bullet c h => exact .inl ⟨c, h, rest, rfl⟩
    | @number digits c hne hdigits h =>
      have hmark : c.isDigit = false := by
        simp only [List.mem_cons, List.not_mem_nil, or_false] at h
        rcases h with rfl | rfl
        all_goals rfl
      have hall : ∀ d ∈ digits, d.isDigit = true := hdigits
      rw [List.append_assoc, List.takeWhile_append_of_pos hall, List.dropWhile_append_of_pos hall]
      refine .inr ⟨by simp [hne], c, h, rest, ?_⟩
      simp [hmark]

instance (cs : List Char) : Decidable (Starts cs) := decidable_of_iff _ startsList_iff

/-- A line of the grammar begins with a quote marker, a bullet or a digit. -/
theorem Starts.head {c : Char} {rest : List Char} (h : Starts (c :: rest)) :
    isWhiteSpace c = false := by
  obtain ⟨quotes, mark, after, hquotes, hmark, hcs⟩ := h
  cases hquotes with
  | nil =>
    obtain ⟨first, others, rfl, hhead⟩ := hmark.head
    obtain ⟨rfl, -⟩ := List.cons.inj hcs
    exact (isDropped_eq_false_of_head hhead).2
  | marker =>
    obtain ⟨rfl, -⟩ := List.cons.inj hcs
    rfl

/-- The bullet or the digit of a line is no quote marker and no blank. -/
theorem Starts.exists_not_isDropped {cs : List Char} (h : Starts cs) :
    ∃ c ∈ cs, isDropped c = false := by
  obtain ⟨quotes, mark, after, hquotes, hmark, rfl⟩ := h
  obtain ⟨first, others, rfl, hhead⟩ := hmark.head
  exact ⟨first, by simp, (isDropped_eq_false_of_head hhead).1⟩

/-- A line is accepted if and only if it is in the grammar: so none with white space at its start,
and none of quote markers and blanks alone. Past its digits a line has two bytes more, and these are
what is looked at, or it has fewer, and then it is no number; and what comes past the digits begins
with a character. -/
theorem startsList_grammar (cs : List Char) :
    (startsList cs = true ↔ Starts cs) ∧
      (cs.head?.any isWhiteSpace = true → startsList cs = false) ∧
      ((∀ c ∈ cs, c = '>' ∨ c = ' ' ∨ c = '\t') → startsList cs = false) ∧
      ∃ digits after, dropQuotes false cs = digits ++ after ∧
        let bytes := encodeUtf8 (dropQuotes false cs)
        let n := (bytes.takeWhile isDigitByte).length
        n = (encodeUtf8 digits).length ∧
          if 2 ≤ (encodeUtf8 after).length then
            bytesBetween? bytes n (n + 2) = some ((encodeUtf8 after).take 2)
          else bytesBetween? bytes n (n + 2) = none ∧ isNumber bytes = false := by
  refine ⟨startsList_iff, ?_, ?_, ?_⟩
  · intro hwhite
    rw [← Bool.not_eq_true, startsList_iff]
    intro hstarts
    cases cs with
    | nil => cases hwhite
    | cons c rest =>
      rw [List.head?_cons, Option.any_some, hstarts.head] at hwhite
      cases hwhite
  · intro hdropped
    rw [← Bool.not_eq_true, startsList_iff]
    intro hstarts
    obtain ⟨c, hc, hkept⟩ := hstarts.exists_not_isDropped
    rcases hdropped c hc with rfl | rfl | rfl
    all_goals cases hkept
  · generalize dropQuotes false cs = rest
    have hlookup := bytesBetween?_digits (encodeUtf8 rest)
    have hshort : ¬2 ≤ (encodeUtf8 (rest.dropWhile Char.isDigit)).length →
        isNumber (encodeUtf8 rest) = false := by
      intro h
      apply isNumber_of_short
      rw [dropWhile_isDigitByte]
      exact Nat.not_le.mp h
    rw [dropWhile_isDigitByte] at hlookup
    refine ⟨rest.takeWhile Char.isDigit, rest.dropWhile Char.isDigit,
      List.takeWhile_append_dropWhile.symm, by rw [takeWhile_isDigitByte], ?_⟩
    split
    case isTrue htwo => rw [hlookup, if_neg (Nat.not_lt.mpr htwo)]
    case isFalse htwo =>
      rw [hlookup, if_pos (Nat.not_le.mp htwo)]
      exact ⟨rfl, hshort htwo⟩

/-- A number in nested quotes, a bullet after a no-break space, and quote markers alone. -/
theorem startsList_grammar_edges :
    startsList ">> \t>12) é".toList = true ∧ startsList "\u00a0- a".toList = false ∧
      startsList "> >\t".toList = false := by
  have hquotes : Quotes ['>', '>', ' ', '\t', '>'] :=
    @Quotes.marker [] _ (by simp) <| @Quotes.marker [' ', '\t'] _ (by simp) <|
      @Quotes.marker [] _ (by simp) .nil
  have hmark : Mark ['1', '2', ')', ' '] :=
    @Mark.number ['1', '2'] ')' (by simp) (by simp) (by simp)
  have hnumber : Starts ">> \t>12) é".toList := ⟨_, _, ['é'], hquotes, hmark, by decide⟩
  refine ⟨(startsList_grammar _).1.mpr hnumber, ?_, ?_⟩
  · exact (startsList_grammar _).2.1 (by decide)
  · exact (startsList_grammar _).2.2.1 (by simp)

end MarkdownPreview.ListStart
