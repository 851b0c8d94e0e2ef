import MarkdownPreview.Markdown.Block
import MarkdownPreview.Markdown.BlockStart
import MarkdownPreview.Markdown.Token.Line

/-!
Headings. A group in braces at the end of a heading gives its id and its classes.
-/

namespace MarkdownPreview.Markdown

structure HeadingAttributes where
  id : Option String := none
  classes : List String := []
  deriving DecidableEq, Repr, Inhabited

namespace HeadingAttributes

/-- The words that blanks and line ends separate. -/
def words (cs : List Char) : List (List Char) :=
  (cs.splitBy fun a b => isBlankOrLineEnd a == isBlankOrLineEnd b).filter
    (!·.any isBlankOrLineEnd)

/-- An id or a class. The last id counts. -/
def add (a : HeadingAttributes) : List Char → HeadingAttributes
  | '#' :: c :: cs => { a with id := some (String.ofList (c :: cs)) }
  | '.' :: c :: cs => { a with classes := a.classes ++ [String.ofList (c :: cs)] }
  | _ => a

/-- Characters that a group of attributes may hold. -/
def isInside (c : Char) : Bool := !("{}\\<>\n\r".toList.contains c)

/-- The end of a heading's text without the group of attributes at its end, and the group. -/
def split (src : Source) (start stop : Nat) : Nat × Option HeadingAttributes :=
  let last := src.skipBack isBlankOrLineEnd start stop
  if last ≤ start || !src.isAt '}' (last - 1) then (stop, none)
  else
    let first := src.skipBack isInside start (last - 1)
    if first ≤ start || !src.isAt '{' (first - 1) then (stop, none)
    else (first - 1, some ((words (src.slice first (last - 1))).foldl add {}))

end HeadingAttributes

namespace Token

/-- The tokens before a position. Where a backslash was taken from the character at the position,
the backslash is put back. -/
def truncate (src : Source) (stop : Nat) : List Token → List Token
  | [] => []
  | t :: ts =>
    if t.stop < stop then t :: truncate src stop ts
    else if t.stop = stop then [t]
    else if t.start = stop then
      if t.mark = .text true && src.isAt '\\' (stop - 1) then
        [⟨.text false, stop - 1, stop⟩]
      else []
    else [{ t with stop := stop }]

/-- Moves the end of the last token. -/
def endAt (stop : Nat) : List Token → List Token
  | [] => []
  | [t] => [{ t with stop := stop }]
  | t :: ts => t :: endAt stop ts

end Token

namespace Heading

/-- The end of the text of a heading without the number signs that close it, if any text is
left. -/
def textEnd? (src : Source) (start stop : Nat) : Option Nat :=
  let last := src.skipBack (fun c => c == '\n' || c == '\r' || c == ' ') start stop
  let marks := src.skipBack (· == '#') start last
  let blank := src.skipBack (· == ' ') start marks
  if marks ≤ start then none else some (if blank < marks then blank else last)

/-- The heading of a level whose number signs begin at `i`, and the position after it. -/
def read (src : Source) (prefixes : List LinePrefix) (level i : Nat) : Block × Nat :=
  match src.lineEnd? (i + level) with
  | some next => (.heading level none [] ⟨[], next, prefixes, false⟩, next)
  | none =>
    let start := src.skip isBlank (i + level)
    let next := src.nextLine start
    let (stop, attributes) := HeadingAttributes.split src start next
    let tokens := (Line.read (src.upTo stop) .whole {} start).tokens
    let tokens := match textEnd? src start stop with
      | some last => Token.endAt last tokens
      | none => tokens.dropLast
    let a := attributes.getD {}
    (.heading level a.id a.classes ⟨tokens, next, prefixes, false⟩, next)

/-- The heading that the underline of a paragraph makes of it. The paragraph ends with a backslash
or not, and the line of the underline ends at `next`. -/
def ofParagraph (src : Source) (prefixes : List LinePrefix) (level start next : Nat)
    (backslash : List Token) (tokens : List Token) : Block :=
  let stop := (tokens.getLast?.map (·.stop)).getD start
  let (stop, attributes) := HeadingAttributes.split src start stop
  let stop := if backslash.isEmpty then src.skipBack isBlank start stop else stop
  let tokens := if attributes.isSome then Token.truncate src stop tokens else tokens
  let a := attributes.getD {}
  .heading level a.id a.classes ⟨Token.endAt stop tokens ++ backslash, next, prefixes, false⟩

end Heading

end MarkdownPreview.Markdown
