/-!
The text that is read, as an array of characters with positions in it, and the line ends and
blanks that the rules of markdown speak of.
-/

namespace MarkdownPreview.Markdown

abbrev Source := Array Char

/-- Blanks other than line ends: tab, line tabulation, form feed and space. -/
def isBlank (c : Char) : Bool :=
  c == ' ' || c == '\t' || c == '\x0b' || c == '\x0c'

def isLineEnd (c : Char) : Bool := c == '\n' || c == '\r'

/-- Blanks and line ends. -/
def isBlankOrLineEnd (c : Char) : Bool := isBlank c || isLineEnd c

def isAsciiLetter (c : Char) : Bool := c.isAlpha

def isAsciiAlphanumeric (c : Char) : Bool := c.isAlphanum

namespace Source

/-- Whether a character of the class stands at a position. -/
def anyAt (src : Source) (p : Char → Bool) (i : Nat) : Bool := src[i]?.any p

def isAt (src : Source) (c : Char) (i : Nat) : Bool := src[i]? == some c

/-- Whether the characters stand at a position, one after the other. -/
def textAt (src : Source) : List Char → Nat → Bool
  | [], _ => true
  | c :: cs, i => src.isAt c i && src.textAt cs (i + 1)

/-- As `textAt`, with capital and small letters taken as one. -/
def textAtAnyCase (src : Source) : List Char → Nat → Bool
  | [], _ => true
  | c :: cs, i => src.anyAt (·.toLower == c.toLower) i && src.textAtAnyCase cs (i + 1)

/-- The first position from `i` on where no character of the class stands. -/
def skip (src : Source) (p : Char → Bool) (i : Nat) : Nat :=
  if h : i < src.size then
    if p src[i] then src.skip p (i + 1) else i
  else i
termination_by src.size - i

/-- The length of the run of `c` that begins at a position. -/
def runLength (src : Source) (c : Char) (i : Nat) : Nat := src.skip (· == c) i - i

/-- The position to which characters of the class reach back from `i`, at most to `from`. -/
def skipBack (src : Source) (p : Char → Bool) (start : Nat) : Nat → Nat
  | 0 => 0
  | i + 1 => if start ≤ i && src.anyAt p i then src.skipBack p start i else i + 1

/-- The text between two positions. -/
def slice (src : Source) (start stop : Nat) : List Char := (src.extract start stop).toList

def sliceString (src : Source) (start stop : Nat) : String := String.ofList (src.slice start stop)

/-- The part of the source before a position. -/
def upTo (src : Source) (stop : Nat) : Source := src.extract 0 stop

/-- The position after the line end that stands at `i`. The end of the source ends a line. -/
def lineEnd? (src : Source) (i : Nat) : Option Nat :=
  match src[i]? with
  | none => some i
  | some '\n' => some (i + 1)
  | some '\r' => some (if src.isAt '\n' (i + 1) then i + 2 else i + 1)
  | some _ => none

def atLineEnd (src : Source) (i : Nat) : Bool := (src.lineEnd? i).isSome

/-- The position after the line, if nothing but blanks is left of it. -/
def blankLine? (src : Source) (i : Nat) : Option Nat := src.lineEnd? (src.skip isBlank i)

def isBlankLine (src : Source) (i : Nat) : Bool := (src.blankLine? i).isSome

/-- The position after the next line feed, or the end of the source. In code and HTML only a line
feed ends a line. -/
def nextLine (src : Source) (i : Nat) : Nat :=
  min (src.skip (· != '\n') i + 1) (max i src.size)

end Source

end MarkdownPreview.Markdown
