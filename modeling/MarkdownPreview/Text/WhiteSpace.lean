/-!
White space of every script, trimming, and cutting a text at a character.
-/

namespace MarkdownPreview.Text

/-- The characters with the white-space property. -/
def isWhiteSpace (c : Char) : Bool :=
  let n := c.toNat
  (0x09 ≤ n && n ≤ 0x0D) || n == 0x20 || n == 0x85 || n == 0xA0 || n == 0x1680 ||
  (0x2000 ≤ n && n ≤ 0x200A) || n == 0x2028 || n == 0x2029 || n == 0x202F || n == 0x205F ||
  n == 0x3000

def trimStart (cs : List Char) : List Char := cs.dropWhile isWhiteSpace

def trimEnd (cs : List Char) : List Char := (cs.reverse.dropWhile isWhiteSpace).reverse

/-- A text without the white space at its ends. -/
def trim (cs : List Char) : List Char := trimEnd (trimStart cs)

/-- The pieces between the occurrences of `c`; there is always at least one. -/
def splitAt (c : Char) : List Char → List (List Char)
  | [] => [[]]
  | d :: rest =>
    if d = c then [] :: splitAt c rest
    else match splitAt c rest with
      | piece :: pieces => (d :: piece) :: pieces
      | [] => [[d]]

/-- The pieces with `c` between them. -/
def joinWith (c : Char) : List (List Char) → List Char
  | [] => []
  | [piece] => piece
  | piece :: pieces => piece ++ c :: joinWith c pieces

/-- The first of the words that white space separates. -/
def firstWord? (cs : List Char) : Option (List Char) :=
  match (trimStart cs).takeWhile (!isWhiteSpace ·) with
  | [] => none
  | word => some word

end MarkdownPreview.Text
