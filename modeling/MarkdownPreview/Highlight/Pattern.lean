import MarkdownPreview.Text.Alphanumeric
import MarkdownPreview.Text.WhiteSpace

/-!
Patterns for the first line of a piece of code. A pattern leads from a place in a line to the
places where a match may end; a line has a match if some place leads to any.
-/

namespace MarkdownPreview.Highlight

open Text

/-- The zeros of the scripts beyond ASCII that have decimal digits. -/
def decimalZeros : List Nat :=
  [0x660, 0x6F0, 0x7C0, 0x966, 0x9E6, 0xA66, 0xAE6, 0xB66, 0xBE6, 0xC66, 0xCE6, 0xD66, 0xDE6,
   0xE50, 0xED0, 0xF20, 0x1040, 0x1090, 0x17E0, 0x1810, 0x1946, 0x19D0, 0x1A80, 0x1A90, 0x1B50,
   0x1BB0, 0x1C40, 0x1C50, 0xA620, 0xA8D0, 0xA900, 0xA9D0, 0xA9F0, 0xAA50, 0xABF0, 0xFF10,
   0x104A0, 0x10D30, 0x10D40, 0x11066, 0x110F0, 0x11136, 0x111D0, 0x112F0, 0x11450, 0x114D0,
   0x11650, 0x116C0, 0x116D0, 0x116DA, 0x11730, 0x118E0, 0x11950, 0x11BF0, 0x11C50, 0x11D50,
   0x11DA0, 0x11F50, 0x16130, 0x16A60, 0x16AC0, 0x16B50, 0x16D70, 0x1CCF0, 0x1D7CE, 0x1D7D8,
   0x1D7E2, 0x1D7EC, 0x1D7F6, 0x1E140, 0x1E2F0, 0x1E4F0, 0x1E5F1, 0x1E950, 0x1FBF0]

def isDecimalDigit (c : Char) : Bool :=
  c.isDigit || decimalZeros.any fun n => n ≤ c.toNat && c.toNat < n + 10

/-- Characters of words: letters, numbers and the low line. -/
def isWordCharacter (c : Char) : Bool := isAlphanumeric c || c == '_'

/-- The characters that one place of a pattern accepts. -/
inductive CharSet
  | only (c : Char)
  | anyCase (c : Char)
  | notNewline
  | digit
  | asciiDigit
  | space
  | wordOrDash
  | except (c : Char)
  deriving DecidableEq, Repr

def CharSet.has : CharSet → Char → Bool
  | only c, d => d == c
  | anyCase c, d => d.toLower == c.toLower
  | notNewline, d => d != '\n'
  | digit, d => isDecimalDigit d
  | asciiDigit, d => d.isDigit
  | space, d => isWhiteSpace d
  | wordOrDash, d => isWordCharacter d || d == '-'
  | except c, d => d != c

inductive Pattern
  | nothing
  | one (set : CharSet)
  | seq (p q : Pattern)
  | alt (p q : Pattern)
  | star (p : Pattern)
  | lineStart
  | lineEnd
  | wordBoundary
  | capture (p : Pattern)
  | captured
  deriving DecidableEq, Repr

namespace Pattern

def lit (s : String) : Pattern :=
  s.toList.foldr (fun c p => seq (one (.only c)) p) nothing

/-- A text in capital or small letters. -/
def litAnyCase (s : String) : Pattern :=
  s.toList.foldr (fun c p => seq (one (.anyCase c)) p) nothing

def seqAll (ps : List Pattern) : Pattern := ps.foldr seq nothing

def altAll : List Pattern → Pattern
  | [] => nothing
  | [p] => p
  | p :: ps => alt p (altAll ps)

def opt (p : Pattern) : Pattern := alt p nothing

def plus (p : Pattern) : Pattern := seq p (star p)

def spaces : Pattern := star (one .space)

def anything : Pattern := star (one .notNewline)

/-- A place in a line: the character before it, the rest of the line, and what was captured. -/
structure Place where
  before : Option Char
  rest : List Char
  capture : List Char
  deriving DecidableEq, Repr

def Place.isBoundary (place : Place) : Bool :=
  place.before.any isWordCharacter != place.rest.head?.any isWordCharacter

/-- The places that any number of steps lead to. A step that leads nowhere new is not taken. -/
def repeatSteps (step : Place → List Place) : Nat → Place → List Place
  | 0, place => [place]
  | fuel + 1, place =>
    place :: ((step place).filter (·.rest.length < place.rest.length)).flatMap
      (repeatSteps step fuel)

/-- Steps over a given text. -/
def stepOver (text : List Char) (place : Place) : List Place :=
  if text.isPrefixOf place.rest then
    [{ place with before := text.getLast?.or place.before, rest := place.rest.drop text.length }]
  else []

/-- The places where a match may end. -/
def ends : Pattern → Place → List Place
  | nothing, place => [place]
  | one set, place =>
    match place.rest with
    | c :: rest => if set.has c then [{ place with before := some c, rest := rest }] else []
    | [] => []
  | seq p q, place => (ends p place).flatMap (ends q)
  | alt p q, place => ends p place ++ ends q place
  | star p, place => repeatSteps (ends p) place.rest.length place
  | lineStart, place => if place.before.isNone then [place] else []
  | lineEnd, place => if place.rest.isEmpty then [place] else []
  | wordBoundary, place => if place.isBoundary then [place] else []
  | capture p, place =>
    (ends p place).map fun place' =>
      { place' with capture := place.rest.take (place.rest.length - place'.rest.length) }
  | captured, place => stepOver place.capture place

/-- Whether a match begins at some place of the rest of a line. -/
def occursFrom (p : Pattern) (before : Option Char) : List Char → Bool
  | [] => !(p.ends ⟨before, [], []⟩).isEmpty
  | c :: rest => !(p.ends ⟨before, c :: rest, []⟩).isEmpty || occursFrom p (some c) rest

def occursIn (p : Pattern) (line : List Char) : Bool := p.occursFrom none line

end Pattern

end MarkdownPreview.Highlight
