import MarkdownPreview.Toml.Digit
import MarkdownPreview.Toml.Space

/-!
TOML strings. Double quotes allow escapes, single quotes do not; three quotes allow line ends.
-/

namespace MarkdownPreview.Toml

/-- The quotes around a string. -/
structure Quotes where
  char : Char
  isTriple : Bool
  deriving DecidableEq, Repr

def Quotes.allowEscapes (q : Quotes) : Bool := q.char == '"'

/-- The quotes at the start of a text. A line end directly after three quotes does not count. -/
def openQuotes? : Reader Quotes
  | '"' :: '"' :: '"' :: '\r' :: '\n' :: rest => some (⟨'"', true⟩, rest)
  | '"' :: '"' :: '"' :: '\n' :: rest => some (⟨'"', true⟩, rest)
  | '"' :: '"' :: '"' :: rest => some (⟨'"', true⟩, rest)
  | '"' :: rest => some (⟨'"', false⟩, rest)
  | '\'' :: '\'' :: '\'' :: '\r' :: '\n' :: rest => some (⟨'\'', true⟩, rest)
  | '\'' :: '\'' :: '\'' :: '\n' :: rest => some (⟨'\'', true⟩, rest)
  | '\'' :: '\'' :: '\'' :: rest => some (⟨'\'', true⟩, rest)
  | '\'' :: rest => some (⟨'\'', false⟩, rest)
  | _ => none

/-- The end of a string at one of its quotes; `rest` is the text after that quote. Up to two quotes
before three closing ones belong to the string. -/
def closeQuotes? (q : Quotes) (rest : List Char) : Option (List Char × List Char) :=
  if q.isTriple then
    match (rest.takeWhile (· == q.char)).length with
    | 0 | 1 => none
    | n + 2 => some (List.replicate (min n 2) q.char, rest.drop (min n 2 + 2))
  else some ([], rest)

/-- The character that an escape of one letter stands for. -/
def escapeLetter? : Char → Option Char
  | 'b' => some '\x08'
  | 't' => some '\t'
  | 'n' => some '\n'
  | 'f' => some '\x0C'
  | 'r' => some '\r'
  | 'e' => some '\x1B'
  | '"' => some '"'
  | '\\' => some '\\'
  | _ => none

/-- The number of digits of an escape that names a code point. -/
def escapeDigits? : Char → Option Nat
  | 'x' => some 2
  | 'u' => some 4
  | 'U' => some 8
  | _ => none

/-- Where a reader of a string stands: between two characters, perhaps in the space that an escaped
line end skips; after a backslash; or in a code point, with the number of digits that are owed and
the value so far. -/
inductive StringState
  | open (skipsSpace : Bool)
  | escape
  | codePoint (owed value : Nat)
  deriving DecidableEq, Repr

/-- A line end may be escaped, with blanks before it. -/
def escapesLineEnd (q : Quotes) (cs : List Char) : Bool :=
  q.isTriple && match skipBlanks cs with
    | '\n' :: _ => true
    | '\r' :: '\n' :: _ => true
    | _ => false

/-- Characters that may stand for themselves in a string. -/
def isPlain (q : Quotes) (c : Char) (rest : List Char) : Bool :=
  !isControl c || q.isTriple && (c == '\n' || isReturn c rest)

/-- The characters of a string whose opening quotes are already read. -/
def stringBody? (q : Quotes) : StringState → Reader (List Char)
  | _, [] => none
  | .open skipsSpace, c :: rest =>
    if skipsSpace && (isBlank c || c == '\n' || isReturn c rest) then
      stringBody? q (.open true) rest
    else
      let closed := if c == q.char then closeQuotes? q rest else none
      match closed with
      | some result => some result
      | none =>
        if c == '\\' && q.allowEscapes then stringBody? q .escape rest
        else if isPlain q c rest then
          (stringBody? q (.open false) rest).map fun (cs, rest) => (c :: cs, rest)
        else none
  | .escape, c :: rest =>
    match escapeLetter? c, escapeDigits? c with
    | some d, _ => (stringBody? q (.open false) rest).map fun (cs, rest) => (d :: cs, rest)
    | none, some n => stringBody? q (.codePoint n 0) rest
    | none, none =>
      if escapesLineEnd q (c :: rest) then stringBody? q (.open true) rest else none
  | .codePoint owed value, c :: rest =>
    match digit? 16 c with
    | none => none
    | some d =>
      let value := value * 16 + d
      if 1 < owed then stringBody? q (.codePoint (owed - 1) value) rest
      else if value.isValidChar then
        (stringBody? q (.open false) rest).map fun (cs, rest) => (Char.ofNat value :: cs, rest)
      else none

def string? : Reader String := fun cs => do
  let (q, rest) ← openQuotes? cs
  let (body, rest) ← stringBody? q (.open false) rest
  return (String.ofList body, rest)

end MarkdownPreview.Toml
