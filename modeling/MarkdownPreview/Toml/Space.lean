/-!
The space between the parts of a TOML text: blanks, line ends and comments.
-/

namespace MarkdownPreview.Toml

/-- A function that reads a part of a text gives what it means and the text after it. -/
abbrev Reader (α : Type) := List Char → Option (α × List Char)

def isBlank (c : Char) : Bool := c == ' ' || c == '\t'

def skipBlanks (cs : List Char) : List Char := cs.dropWhile isBlank

/-- Characters that no comment and no string of one line can hold. -/
def isControl (c : Char) : Bool := (c.toNat < 0x20 && c != '\t') || c.toNat == 0x7F

/-- A carriage return before a line feed is a part of the line end. -/
def isReturn (c : Char) (rest : List Char) : Bool := c == '\r' && rest.head? == some '\n'

/-- The text after a line of which only blanks and a comment are left. -/
def endLine? : (inComment : Bool) → List Char → Option (List Char)
  | _, [] => some []
  | inComment, c :: rest =>
    if c == '\n' then some rest
    else if isReturn c rest then endLine? inComment rest
    else if inComment then if isControl c then none else endLine? true rest
    else if isBlank c then endLine? false rest
    else if c == '#' then endLine? true rest
    else none

/-- The text after blanks, line ends and comments. -/
def skipSpace? : (inComment : Bool) → List Char → Option (List Char)
  | _, [] => some []
  | inComment, c :: rest =>
    if c == '\n' then skipSpace? false rest
    else if isReturn c rest then skipSpace? inComment rest
    else if inComment then if isControl c then none else skipSpace? true rest
    else if isBlank c then skipSpace? false rest
    else if c == '#' then skipSpace? true rest
    else some (c :: rest)

end MarkdownPreview.Toml
