import MarkdownPreview.Markdown.Unescape

/-!
What a link leads to: a destination and a title, each with its escapes resolved.
-/

namespace MarkdownPreview.Markdown

structure LinkTarget where
  url : String
  title : String
  deriving DecidableEq, Repr, Inhabited

namespace LinkTarget

/-- The size that counts against the limit on repeated targets. -/
def size (t : LinkTarget) : Nat := t.url.utf8ByteSize + t.title.utf8ByteSize

/-- The end of a destination in angle brackets; `i` is after the opening one. -/
def pointedEnd? (src : Source) : (fuel i : Nat) → Option Nat
  | 0, _ => none
  | fuel + 1, i =>
    match src[i]? with
    | none => none
    | some c =>
      if c == '>' then some i
      else if isLineEnd c || c == '<' then none
      else if c == '\\' && isPunctuationAt src (i + 1) then pointedEnd? src fuel (i + 2)
      else pointedEnd? src fuel (i + 1)

/-- The end of a destination without brackets. Its parentheses are balanced, and at most
`limit + 1` of them are open at a time. -/
def plainEnd? (src : Source) (limit : Nat) : (fuel depth i : Nat) → Option Nat
  | 0, depth, i => if depth = 0 then some i else none
  | fuel + 1, depth, i =>
    match src[i]? with
    | none => if depth = 0 then some i else none
    | some c =>
      if c.toNat ≤ 0x20 then if depth = 0 then some i else none
      else if c == '(' then
        if limit < depth then none else plainEnd? src limit fuel (depth + 1) (i + 1)
      else if c == ')' then
        if depth = 0 then some i else plainEnd? src limit fuel (depth - 1) (i + 1)
      else if c == '\\' && isPunctuationAt src (i + 1) then
        plainEnd? src limit fuel depth (i + 2)
      else plainEnd? src limit fuel depth (i + 1)

/-- The destination at `i`, and the position after it. -/
def destination? (src : Source) (inTable : Bool) (limit i : Nat) : Option (String × Nat) :=
  if src.isAt '<' i then
    (pointedEnd? src (src.size - i) (i + 1)).map fun stop =>
      (unescape src inTable (i + 1) stop, stop + 1)
  else
    (plainEnd? src limit (src.size - i + 1) 0 i).map fun stop => (unescape src inTable i stop, stop)

/-- The mark that closes a title, by the one that opens it. -/
def titleClosing? : Char → Option Char
  | '"' => some '"'
  | '\'' => some '\''
  | '(' => some ')'
  | _ => none

end LinkTarget

end MarkdownPreview.Markdown
