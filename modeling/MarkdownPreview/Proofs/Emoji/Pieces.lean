import MarkdownPreview.Emoji.Substitute

/-!
A text read character by character: wherever a known shortcode begins, it is one piece, and all
other characters are pieces of their own.
-/

namespace MarkdownPreview.Emoji

/-- The known shortcode that a text begins with. -/
def shortcodeAt? : List Char → Option (String × Emoji)
  | ':' :: rest =>
    match rest.takeWhile isWordChar, rest.dropWhile isWordChar with
    | c :: word, ':' :: _ =>
      let code := String.ofList (':' :: c :: word ++ [':'])
      (lookup code).map (code, ·)
    | _, _ => none
  | _ => none

/-- A piece of a text: one character of it, or a known shortcode. -/
inductive Piece
  | char (c : Char)
  | shortcode (code : String) (emoji : Emoji)
  deriving DecidableEq, Repr

/-- The pieces of a text after its first characters, which belong to a shortcode before. -/
def pieces : Nat → List Char → List Piece
  | _, [] => []
  | skip + 1, _ :: rest => pieces skip rest
  | 0, c :: rest =>
    match shortcodeAt? (c :: rest) with
    | some (code, emoji) => .shortcode code emoji :: pieces (code.length - 1) rest
    | none => .char c :: pieces 0 rest

def Piece.isShortcode : Piece → Bool
  | char _ => false
  | shortcode _ _ => true

def Piece.markup : Piece → List Char
  | char c => [c]
  | shortcode code emoji => (emoji.markup code).toList

/-- A known shortcode occurs in the text. -/
def hasShortcode (cs : List Char) : Bool := (pieces 0 cs).any Piece.isShortcode

/-- The characters of a text with its known shortcodes replaced. -/
def substituteChars (cs : List Char) : List Char := (pieces 0 cs).flatMap Piece.markup

/-! ### Shortcodes -/

/-- A shortcode that is found is a word between two colons. -/
theorem exists_word_of_shortcodeAt? {cs : List Char} {code : String} {emoji : Emoji}
    (h : shortcodeAt? cs = some (code, emoji)) :
    ∃ word rest, (∀ c ∈ word, isWordChar c) ∧ code.toList = ':' :: word ++ [':'] ∧
      cs = code.toList ++ rest ∧ lookup code = some emoji := by
  unfold shortcodeAt? at h
  split at h
  case h_2 => cases h
  case h_1 inside =>
    split at h
    case h_2 => cases h
    case h_1 c word after hword hafter =>
      obtain ⟨found, hfound, heq⟩ := Option.map_eq_some_iff.mp h
      cases heq
      have hinside := List.takeWhile_append_dropWhile (p := isWordChar) (l := inside)
      have hchars : ∀ d ∈ c :: word, isWordChar d = true := by
        rw [← hword]
        exact List.all_eq_true.mp List.all_takeWhile
      rw [hword, hafter] at hinside
      refine ⟨c :: word, after, hchars, String.toList_ofList, ?_, hfound⟩
      rw [String.toList_ofList, ← hinside]
      simp only [List.cons_append, List.append_assoc, List.nil_append]

theorem lookup_of_shortcodeAt? {cs : List Char} {code : String} {emoji : Emoji}
    (h : shortcodeAt? cs = some (code, emoji)) : lookup code = some emoji := by
  obtain ⟨-, -, -, -, -, hlookup⟩ := exists_word_of_shortcodeAt? h
  exact hlookup

theorem shortcodeAt?_cons_of_ne_colon {c : Char} (h : c ≠ ':') (cs : List Char) :
    shortcodeAt? (c :: cs) = none := by
  unfold shortcodeAt?
  split
  · exact absurd (List.cons.inj ‹_›).1 h
  · rfl

/-! ### Pieces -/

theorem pieces_eq_drop (skip : Nat) (cs : List Char) :
    pieces skip cs = pieces 0 (cs.drop skip) := by
  induction cs generalizing skip with
  | nil => cases skip <;> rfl
  | cons c cs ih =>
    cases skip with
    | zero => rfl
    | succ skip => exact ih skip

theorem pieces_cons_of_none {c : Char} {cs : List Char} (h : shortcodeAt? (c :: cs) = none) :
    pieces 0 (c :: cs) = .char c :: pieces 0 cs := by
  rw [pieces, h]

/-- After a shortcode the text is read on. -/
theorem pieces_append_of_some {code : String} {emoji : Emoji} {rest : List Char}
    (h : shortcodeAt? (code.toList ++ rest) = some (code, emoji)) :
    pieces 0 (code.toList ++ rest) = .shortcode code emoji :: pieces 0 rest := by
  obtain ⟨word, -, -, hcode, -, -⟩ := exists_word_of_shortcodeAt? h
  have hlength : code.length - 1 = (word ++ [':']).length := by
    rw [← String.length_toList, hcode]
    rfl
  rw [hcode, List.cons_append, List.cons_append] at h ⊢
  rw [pieces, h]
  dsimp only
  rw [pieces_eq_drop, hlength, List.drop_left]

/-! ### Texts -/

theorem substituteChars_cons_of_none {c : Char} {cs : List Char}
    (h : shortcodeAt? (c :: cs) = none) : substituteChars (c :: cs) = c :: substituteChars cs := by
  rw [substituteChars, pieces_cons_of_none h]
  rfl

theorem substituteChars_append_of_some {code : String} {emoji : Emoji} {rest : List Char}
    (h : shortcodeAt? (code.toList ++ rest) = some (code, emoji)) :
    substituteChars (code.toList ++ rest) =
      (emoji.markup code).toList ++ substituteChars rest := by
  rw [substituteChars, pieces_append_of_some h]
  rfl

theorem substituteChars_cons_of_ne_colon {c : Char} (h : c ≠ ':') (cs : List Char) :
    substituteChars (c :: cs) = c :: substituteChars cs :=
  substituteChars_cons_of_none (shortcodeAt?_cons_of_ne_colon h cs)

/-- Nothing is replaced before the first colon. -/
theorem substituteChars_append {front : List Char} (h : ':' ∉ front) (cs : List Char) :
    substituteChars (front ++ cs) = front ++ substituteChars cs := by
  induction front with
  | nil => rfl
  | cons c front ih =>
    simp only [List.mem_cons, not_or] at h
    rw [List.cons_append, substituteChars_cons_of_ne_colon (Ne.symm h.1), ih h.2, List.cons_append]

theorem hasShortcode_cons_of_none {c : Char} {cs : List Char}
    (h : shortcodeAt? (c :: cs) = none) : hasShortcode (c :: cs) = hasShortcode cs := by
  rw [hasShortcode, pieces_cons_of_none h]
  rfl

theorem hasShortcode_append_of_some {code : String} {emoji : Emoji} {rest : List Char}
    (h : shortcodeAt? (code.toList ++ rest) = some (code, emoji)) :
    hasShortcode (code.toList ++ rest) = true := by
  rw [hasShortcode, pieces_append_of_some h]
  rfl

theorem hasShortcode_append {front : List Char} (h : ':' ∉ front) (cs : List Char) :
    hasShortcode (front ++ cs) = hasShortcode cs := by
  induction front with
  | nil => rfl
  | cons c front ih =>
    simp only [List.mem_cons, not_or] at h
    rw [List.cons_append, hasShortcode_cons_of_none (shortcodeAt?_cons_of_ne_colon (Ne.symm h.1) _),
      ih h.2]

theorem hasShortcode_of_not_mem {cs : List Char} (h : ':' ∉ cs) : hasShortcode cs = false := by
  rw [← List.append_nil cs, hasShortcode_append h]
  rfl

/-- A text without a known shortcode is left as it is. -/
theorem substituteChars_of_hasShortcode_eq_false {cs : List Char} (h : hasShortcode cs = false) :
    substituteChars cs = cs := by
  induction cs with
  | nil => rfl
  | cons c cs ih =>
    cases hcode : shortcodeAt? (c :: cs) with
    | none =>
      rw [hasShortcode_cons_of_none hcode] at h
      rw [substituteChars_cons_of_none hcode, ih h]
    | some found =>
      obtain ⟨-, rest, -, -, hcs, -⟩ := exists_word_of_shortcodeAt? hcode
      rw [hcs] at h hcode
      rw [hasShortcode_append_of_some hcode] at h
      cases h

end MarkdownPreview.Emoji
