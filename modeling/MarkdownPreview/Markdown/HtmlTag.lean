import MarkdownPreview.Markdown.Source

/-!
HTML tags, with or without line ends in them. Where line ends are allowed, a function leads from
the start of a line to its text.
-/

namespace MarkdownPreview.Markdown.HtmlTag

/-- From the start of a line to its text, where a tag may go on over lines. -/
abbrev Continuation := Option (Nat → Nat)

/-- The position after blanks and line ends. -/
def skipSpace (src : Source) (next : Continuation) : (fuel i : Nat) → Option Nat
  | 0, i => some i
  | fuel + 1, i =>
    let i := src.skip isBlank i
    match src.lineEnd? i with
    | none => some i
    | some j => if j = i then none else next.bind fun enter => skipSpace src next fuel (enter j)

/-- The position after a quoted value; `i` is after the opening quote. -/
def quotedValue? (src : Source) (next : Continuation) (quote : Char) : (fuel i : Nat) → Option Nat
  | 0, _ => none
  | fuel + 1, i =>
    if src.isAt quote i then some (i + 1)
    else match src.lineEnd? i with
      | none => quotedValue? src next quote fuel (i + 1)
      | some j =>
        if j = i then none
        else next.bind fun enter => quotedValue? src next quote fuel (enter j)

/-- Characters of values without quotes. -/
def isBareValue (c : Char) : Bool := !("'\" =><`\n\r".toList.contains c)

def value? (src : Source) (next : Continuation) (i : Nat) : Option Nat :=
  match src[i]? with
  | none => none
  | some c =>
    if c == '"' || c == '\'' then quotedValue? src next c (src.size - i) (i + 1)
    else if isBareValue c then some (src.skip isBareValue i)
    else none

def isNameStart (c : Char) : Bool := isAsciiLetter c || c == '_' || c == ':'

def isNamePart (c : Char) : Bool :=
  isAsciiAlphanumeric c || c == '_' || c == ':' || c == '.' || c == '-'

/-- The position after an attribute: a name and, after an equals sign, a value. -/
def attribute? (src : Source) (next : Continuation) (i : Nat) : Option Nat :=
  if src.anyAt isNameStart i then
    let stop := src.skip isNamePart i
    (skipSpace src next (src.size - stop + 1) stop).bind fun j =>
      if src.isAt '=' j then
        (skipSpace src next (src.size - j) (j + 1)).bind (value? src next)
      else some stop
  else none

/-- The position after the attributes of a tag, each with space before it. -/
def attributes? (src : Source) (next : Continuation) : (fuel i : Nat) → Option Nat
  | 0, _ => none
  | fuel + 1, i =>
    (skipSpace src next (src.size - i + 1) i).bind fun j =>
      if src.isAt '/' j || src.isAt '>' j then some j
      else if j = i then none
      else (attribute? src next j).bind (attributes? src next fuel)

/-- The position after a name, or `i` if there is none. -/
def skipName (src : Source) (i : Nat) : Nat :=
  if src.anyAt isAsciiLetter i then src.skip (fun c => isAsciiAlphanumeric c || c == '-') i else i

def close? (src : Source) (i : Nat) : Option Nat :=
  if src.isAt '>' i then some (i + 1) else none

/-- The position after the opening or closing tag whose `<` stands at `i`. -/
def read? (src : Source) (next : Continuation) (i : Nat) : Option Nat :=
  if src.isAt '/' (i + 1) then
    let stop := skipName src (i + 2)
    if stop = i + 2 then none else close? src (src.skip isBlank stop)
  else
    let stop := skipName src (i + 1)
    if stop = i + 1 then none
    else (attributes? src next (src.size - stop + 1) stop).bind fun j =>
      close? src (if src.isAt '/' j then j + 1 else j)

end MarkdownPreview.Markdown.HtmlTag
