import MarkdownPreview.Markdown.LinePrefix
import MarkdownPreview.Markdown.HtmlTag
import MarkdownPreview.Markdown.Token

/-!
Stretches of the source that are taken as they are: code, mathematics, HTML and addresses in angle
brackets.
-/

namespace MarkdownPreview.Markdown

/-- The text of a block and what is needed to read it: the source up to the end of the block, the
prefixes of its lines, and whether it stands in a table. -/
structure Passage where
  src : Source
  prefixes : List LinePrefix
  inTable : Bool
  deriving Inhabited

namespace Passage

/-- The text of the line at `i`. -/
def lineText (p : Passage) (i : Nat) : Nat := LinePrefix.textStart p.src p.prefixes i

/-- The characters between two positions, without the prefixes of lines. A line end becomes
`newline`, if there is one given. In a table, a backslash before a vertical line is dropped. -/
def charsFrom (p : Passage) (newline : Option Char) (stop : Nat) :
    (fuel i : Nat) → List Char → List Char
  | 0, _, out => out.reverse
  | fuel + 1, i, out =>
    if stop ≤ i then out.reverse
    else match p.src[i]?, p.src.lineEnd? i with
      | none, _ => out.reverse
      | some _, some next =>
        let out := match newline with
          | some c => c :: out
          | none => (p.src.slice i next).reverse ++ out
        charsFrom p newline stop fuel (p.lineText next) out
      | some c, none =>
        if p.inTable && c == '\\' && p.src.isAt '|' (i + 1) then
          charsFrom p newline stop fuel (i + 2) ('|' :: out)
        else charsFrom p newline stop fuel (i + 1) (c :: out)

def chars (p : Passage) (newline : Option Char) (start stop : Nat) : List Char :=
  p.charsFrom newline stop (stop - start) start []

/-- The content of code: line ends are spaces, and a space at both ends is dropped. -/
def codeText (p : Passage) (start stop : Nat) : String :=
  let cs := p.chars (some ' ') start stop
  let padded := cs.head? == some ' ' && cs.getLast? == some ' ' && !cs.all (· == ' ')
  String.ofList (if padded then cs.tail.dropLast else cs)

def mathText (p : Passage) (start stop : Nat) : String :=
  String.ofList (p.chars none start stop)

/-- A tag without the prefixes of its lines. -/
def tagText (p : Passage) (start stop : Nat) : String :=
  String.ofList ({ p with inTable := false }.chars none start stop)

end Passage

namespace InlineHtml

/-- The first position from `i` on where a text stands. -/
def findText? (src : Source) (text : List Char) : (fuel i : Nat) → Option Nat
  | 0, _ => none
  | fuel + 1, i =>
    if src.size ≤ i then none
    else if src.textAt text i then some i
    else findText? src text fuel (i + 1)

/-- The position after the next occurrence of a text. -/
def after? (src : Source) (text : String) (i : Nat) : Option Nat :=
  (findText? src text.toList (src.size - i + 1) i).map (· + text.length)

/-- The position after a comment, a section of character data or a declaration; `i` is after the
`<!`. -/
def markup? (src : Source) (i : Nat) : Option Nat :=
  if src.textAt ['-', '-'] i then
    if src.isAt '>' (i + 2) then some (i + 3)
    else if src.textAt ['-', '>'] (i + 2) then some (i + 4)
    else after? src "-->" (i + 2)
  else if src.textAt "[CDATA[".toList i then
    let brackets := src.skip (· != ']') (i + 7)
    let stop := brackets + src.runLength ']' brackets
    if brackets < stop && src.isAt '>' stop then some (stop + 1) else none
  else if src.anyAt isAsciiLetter i then after? src ">" i
  else none

/-- The HTML whose `<` stands at `i`, with the position after it. -/
def read? (p : Passage) (i : Nat) : Option (String × Nat) :=
  let raw (stop : Nat) : String × Nat := (p.src.sliceString i stop, stop)
  if p.src.isAt '!' (i + 1) then (markup? p.src (i + 2)).map raw
  else if p.src.isAt '?' (i + 1) then (after? p.src "?>" (i + 2)).map raw
  else (HtmlTag.read? p.src (some p.lineText) i).map fun stop => (p.tagText i stop, stop)

end InlineHtml

namespace Autolink

/-- Characters of the scheme of an address. -/
def isSchemeChar (c : Char) : Bool := isAsciiAlphanumeric c || c == '.' || c == '-' || c == '+'

/-- The end of an address with a scheme. -/
def uri? (src : Source) (i : Nat) : Option Nat :=
  let colon := src.skip isSchemeChar i
  if src.anyAt isAsciiLetter i && src.isAt ':' colon && i + 2 ≤ colon && colon ≤ i + 32 then
    let stop := src.skip (fun c => c != '>' && c != '<' && 0x20 < c.toNat) colon
    if src.isAt '>' stop then some stop else none
  else none

/-- Characters of the name in a mail address. -/
def isMailboxChar (c : Char) : Bool :=
  isAsciiAlphanumeric c || ".!#$%&'*+/=?^_\x60\x7b|\x7d~-".toList.contains c

/-- The end of a host name: parts of letters, digits and hyphens, with points between them. -/
def host? (src : Source) : (fuel i : Nat) → Option Nat
  | 0, _ => none
  | fuel + 1, i =>
    let stop := src.skip (fun c => isAsciiAlphanumeric c || c == '-') i
    if stop = i || i + 63 < stop || src.isAt '-' i || src.isAt '-' (stop - 1) then none
    else if src.isAt '.' stop then host? src fuel (stop + 1)
    else some stop

def mail? (src : Source) (i : Nat) : Option Nat :=
  let sign := src.skip isMailboxChar i
  if i < sign && src.isAt '@' sign then
    (host? src (src.size - sign + 1) (sign + 1)).bind fun stop =>
      if src.isAt '>' stop then some stop else none
  else none

/-- The address that begins at `i`, after the `<`, and the position after its `>`. -/
def read? (src : Source) (i : Nat) : Option (String × Nat) :=
  ((uri? src i).or (mail? src i)).map fun stop => (src.sliceString i stop, stop + 1)

end Autolink

end MarkdownPreview.Markdown
