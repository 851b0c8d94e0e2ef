import MarkdownPreview.Emoji.Table
import MarkdownPreview.Text.Cut
import MarkdownPreview.Text.Utf8

/-!
Shortcodes in running text. The text is gone over from colon to colon, by bytes: a word between two
colons that is a known shortcode is replaced, and what stands between two of those is copied. The
closing colon of a word that is no shortcode may open the next one.
-/

namespace MarkdownPreview.Emoji

open Text

/-- The characters of a shortcode's word. -/
def isWordChar (c : Char) : Bool := c.isAlphanum || c == '_' || c == '+' || c == '-'

def isWordByte (b : UInt8) : Bool := isWordChar (Char.ofUInt8 b)

/-- The first colon from a byte on. -/
def colonFrom? (text : String) (position : Nat) : Except BadCut (Option Nat) :=
  if position < text.utf8ByteSize then do
    let rest ← cut text position text.utf8ByteSize
    return ((encodeUtf8 rest.toList).idxOf? ':'.toUInt8).map (position + ·)
  else return none

/-- The known shortcode that the colon at a byte opens. -/
def shortcodeFrom? (text : String) (start : Nat) : Except BadCut (Option (String × Emoji)) := do
  let rest ← cut text (start + 1) text.utf8ByteSize
  let length := ((encodeUtf8 rest.toList).takeWhile isWordByte).length
  let stop := start + 1 + length
  if 0 < length ∧ (encodeUtf8 text.toList)[stop]? = some ':'.toUInt8 then
    let code ← cut text start (stop + 1)
    return (lookup code).map (code, ·)
  else return none

/-- How far a text is gone over: what is written, if a shortcode was found, the byte up to which the
text is in it, and the byte from which on the next colon is looked for. -/
structure Scan where
  written : Option String := none
  copied : Nat := 0
  position : Nat := 0
  deriving DecidableEq, Repr

namespace Scan

/-- Goes past the colon at a byte, or past the shortcode that it opens. -/
def pass (text : String) (s : Scan) (start : Nat) : Except BadCut Scan := do
  match ← shortcodeFrom? text start with
  | some (code, emoji) =>
    let before ← cut text s.copied start
    let stop := start + code.utf8ByteSize
    return ⟨some (s.written.getD "" ++ before ++ emoji.markup code), stop, stop⟩
  | none => return { s with position := start + 1 }

theorem bounds_of_colonFrom? {text : String} {position start : Nat}
    (h : colonFrom? text position = .ok (some start)) :
    position < text.utf8ByteSize ∧ position ≤ start := by
  unfold colonFrom? at h
  split at h
  case isTrue hlt =>
    refine ⟨hlt, ?_⟩
    cases hrest : cut text position text.utf8ByteSize with
    | error bad =>
      rw [hrest] at h
      cases h
    | ok rest =>
      rw [hrest] at h
      obtain ⟨offset, -, rfl⟩ := Option.map_eq_some_iff.mp (Except.ok.inj h)
      omega
  case isFalse => cases h

theorem pos_of_shortcodeFrom? {text code : String} {start : Nat} {emoji : Emoji}
    (h : shortcodeFrom? text start = .ok (some (code, emoji))) : 0 < code.utf8ByteSize := by
  unfold shortcodeFrom? at h
  cases hrest : cut text (start + 1) text.utf8ByteSize with
  | error bad =>
    rw [hrest] at h
    cases h
  | ok rest =>
    simp only [hrest, bind, Except.bind] at h
    split at h
    case isFalse => cases h
    case isTrue =>
      split at h
      case h_1 => cases h
      case h_2 found hcode =>
        obtain ⟨_, _, heq⟩ := Option.map_eq_some_iff.mp (Except.ok.inj h)
        cases heq
        rw [utf8ByteSize_of_cut hcode]
        omega

theorem lt_position_of_pass {text : String} {s next : Scan} {start : Nat}
    (h : s.pass text start = .ok next) : start < next.position := by
  unfold pass at h
  cases hcode : shortcodeFrom? text start with
  | error bad =>
    rw [hcode] at h
    cases h
  | ok found =>
    simp only [hcode, bind, Except.bind] at h
    match found with
    | none =>
      cases h
      exact Nat.lt_succ_self start
    | some (code, emoji) =>
      have hpos := pos_of_shortcodeFrom? hcode
      cases hbefore : cut text s.copied start with
      | error bad =>
        simp only [hbefore] at h
        cases h
      | ok before =>
        simp only [hbefore] at h
        cases h
        dsimp only
        omega

/-- Goes over the rest of a text. -/
def run (text : String) (s : Scan) : Except BadCut Scan :=
  match hcolon : colonFrom? text s.position with
  | .error bad => .error bad
  | .ok none => .ok s
  | .ok (some start) =>
    have := bounds_of_colonFrom? hcolon
    match hpass : s.pass text start with
    | .error bad => .error bad
    | .ok next =>
      have := lt_position_of_pass hpass
      run text next
termination_by text.utf8ByteSize - s.position

end Scan

/-- The text with its known shortcodes replaced; nothing if it has none. -/
def replaced (text : String) : Except BadCut (Option String) :=
  match (encodeUtf8 text.toList).idxOf? ':'.toUInt8 with
  | none => .ok none
  | some first => do
    let s ← Scan.run text { position := first }
    match s.written with
    | some written =>
      let rest ← cut text s.copied text.utf8ByteSize
      return some (written ++ rest)
    | none => return none

/-- The text with its known shortcodes replaced; nothing if it has none. All cuts are between
characters, so there is no third case. -/
def substitute? (text : String) : Option String := (replaced text).toOption.join

def substitute (text : String) : String := (substitute? text).getD text

end MarkdownPreview.Emoji
