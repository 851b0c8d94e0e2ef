import MarkdownPreview.Markdown.Interrupt
import MarkdownPreview.Markdown.LinkTarget

/-!
Definitions of links: `[label]: destination "title"`. A definition may go on over lines that would
go on a paragraph.
-/

namespace MarkdownPreview.Markdown

structure LinkDefinition where
  label : String
  target : LinkTarget
  deriving DecidableEq, Repr, Inhabited

namespace LinkDefinition

/-- Parentheses that may be open in a destination, less one. -/
def nestingLimit : Nat := 1

/-- The text of the line at `i`, if a label goes on there. -/
def labelLine? (src : Source) (prefixes : List LinePrefix) (i : Nat) : Option Nat :=
  let (inside, k) := LinePrefix.enterLine src prefixes i
  if interruptsParagraph src prefixes inside k.pos || (inside && (underline? src k.pos).isSome)
  then none
  else some k.pos

/-- The line at `i`, if a definition goes on there. -/
def nextLine? (src : Source) (prefixes : List LinePrefix) (i : Nat) : Option Cursor :=
  let (inside, k) := LinePrefix.enterLine src prefixes i
  match k.shallow? src with
  | some k =>
    if interruptsParagraph src prefixes inside k.pos || (underline? src k.pos).isSome then none
    else some k
  | none => some (k.spacesUpTo src 4).2

/-- The position after blanks with at most one line end among them, and whether there was one. -/
def skipSpace? (src : Source) (prefixes : List LinePrefix) :
    (fuel : Nat) → (newline : Bool) → (i : Nat) → Option (Nat × Bool)
  | 0, newline, i => some (i, newline)
  | fuel + 1, newline, i =>
    let i := src.skip isBlank i
    match src.lineEnd? i with
    | none => some (i, newline)
    | some next =>
      if newline then none
      else (nextLine? src prefixes next).bind fun k => skipSpace? src prefixes fuel true k.pos

/-- Reads a title up to its closing mark, with its escapes; `out` holds what was read, newest
first. -/
def titleFrom? (src : Source) (prefixes : List LinePrefix) (closing : Char) :
    (fuel i : Nat) → List Char → Option (List Char × Nat)
  | 0, _, _ => none
  | fuel + 1, i, out =>
    match src[i]? with
    | none => none
    | some c =>
      if c == closing then some (out.reverse, i + 1)
      else if c == '(' && closing == ')' then none
      else if isLineEnd c then
        ((src.lineEnd? i).bind (nextLine? src prefixes)).bind fun k =>
          titleFrom? src prefixes closing fuel (k.allSpaces src).pos ('\n' :: out)
      else if c == '\\' && src.anyAt (!isLineEnd ·) (i + 1) then
        titleFrom? src prefixes closing fuel (i + 2) (src.getD (i + 1) c :: c :: out)
      else titleFrom? src prefixes closing fuel (i + 1) (c :: out)

/-- The title at `i`, and the position after it. -/
def title? (src : Source) (prefixes : List LinePrefix) (i : Nat) : Option (String × Nat) :=
  (src[i]?.bind LinkTarget.titleClosing?).bind fun closing =>
    (titleFrom? src prefixes closing (src.size - i) (i + 1) []).map fun (title, next) =>
      (unescape title.toArray false 0 title.length, next)

/-- The title of a definition and the position after it; `i` is after the destination. What
follows a destination in its line is a title, or there is no definition. -/
def afterDestination? (src : Source) (prefixes : List LinePrefix) (i : Nat) :
    Option (String × Nat) :=
  match skipSpace? src prefixes 3 false i with
  | none => some ("", i)
  | some (j, newline) =>
    if j = i && !newline && i < src.size then none
    else match title? src prefixes j with
      | some (title, next) =>
        if src.isBlankLine next then some (title, next)
        else if newline then some ("", i) else none
      | none => if newline || i = src.size then some ("", i) else none

/-- The definition at `i`, and the position after it. A label that begins with `^` is a
footnote's. -/
def read? (src : Source) (prefixes : List LinePrefix) (i : Nat) : Option (LinkDefinition × Nat) :=
  if !src.isAt '[' i || src.isAt '^' (i + 1) then none
  else
    (LinkLabel.read? src false (labelLine? src prefixes) (i + 1)).bind fun (label, next) =>
      if !src.isAt ':' next then none
      else
        (skipSpace? src prefixes 3 false (next + 1)).bind fun (start, _) =>
          (LinkTarget.destination? src false nestingLimit start).bind fun (url, stop) =>
            if stop = start then none
            else (afterDestination? src prefixes stop).map fun (title, after) =>
              (⟨label, ⟨url, title⟩⟩, after)

end LinkDefinition

end MarkdownPreview.Markdown
