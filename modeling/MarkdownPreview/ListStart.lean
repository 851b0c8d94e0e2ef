import MarkdownPreview.Text.Utf8

/-!
Lines that start a list: quote markers, then a bullet or a number with its mark, then a space.
-/

namespace MarkdownPreview.ListStart

open Text

/-- Drops leading quote markers, each with the spaces and tabs after it. `inQuote` tells that a
marker came just before. -/
def dropQuotes (inQuote : Bool) : List Char → List Char
  | '>' :: rest => dropQuotes true rest
  | c :: rest => if inQuote && (c == ' ' || c == '\t') then dropQuotes true rest else c :: rest
  | [] => []

/-- A bullet and a space. -/
def isBullet : List UInt8 → Bool
  | bullet :: space :: _ =>
    (bullet == '-'.toUInt8 || bullet == '*'.toUInt8 || bullet == '+'.toUInt8) &&
      space == ' '.toUInt8
  | _ => false

def isDigitByte (b : UInt8) : Bool := (Char.ofUInt8 b).isDigit

/-- The bytes from one index up to another; nothing if the indices are not in order or there are not
so many bytes. -/
def bytesBetween? (bytes : List UInt8) (start stop : Nat) : Option (List UInt8) :=
  if start ≤ stop ∧ stop ≤ bytes.length then some (bytes.extract start stop) else none

/-- A decimal number, a point or a parenthesis, and a space. -/
def isNumber (bytes : List UInt8) : Bool :=
  let digits := (bytes.takeWhile isDigitByte).length
  if digits = 0 then false
  else match bytesBetween? bytes digits (digits + 2) with
    | some [mark, space] =>
      (mark == '.'.toUInt8 || mark == ')'.toUInt8) && space == ' '.toUInt8
    | _ => false

/-- Whether a line starts a list. What follows its quote markers is looked at byte by byte. -/
def startsList (cs : List Char) : Bool :=
  let bytes := encodeUtf8 (dropQuotes false cs)
  isBullet bytes || isNumber bytes

end MarkdownPreview.ListStart
