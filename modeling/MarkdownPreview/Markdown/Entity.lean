import MarkdownPreview.Markdown.Entity.Names
import MarkdownPreview.Markdown.Source

/-!
Character references: `&name;`, `&#decimal;` and `&#xhexadecimal;`.
-/

namespace MarkdownPreview.Markdown.Entity

/-- The characters that a name stands for. -/
def named? (name : String) : Option String :=
  match name.toList with
  | c :: _ => (namesFrom c).lookup name
  | [] => none

def hexValue? (c : Char) : Option Nat :=
  if c.isDigit then some (c.toNat - 48)
  else if 'a' ≤ c && c ≤ 'f' then some (c.toNat - 87)
  else if 'A' ≤ c && c ≤ 'F' then some (c.toNat - 55)
  else none

def decimalValue? (c : Char) : Option Nat := if c.isDigit then some (c.toNat - 48) else none

/-- The number that at most `limit` digits write, and the position after them. -/
def readNumber (src : Source) (base : Nat) (digit? : Char → Option Nat) :
    (limit i value : Nat) → Nat × Nat
  | 0, i, value => (value, i)
  | limit + 1, i, value =>
    match src[i]?.bind digit? with
    | some d => readNumber src base digit? limit (i + 1) (value * base + d)
    | none => (value, i)

/-- The character of a code point. Zero has the replacement character. -/
def charOf? (n : Nat) : Option Char :=
  let n := if n = 0 then 0xFFFD else n
  if n.isValidChar then some (Char.ofNat n) else none

/-- The reference whose number begins at `i`. -/
def numeric? (src : Source) (base limit : Nat) (digit? : Char → Option Nat) (i : Nat) :
    Option (String × Nat) :=
  let (value, stop) := readNumber src base digit? limit i 0
  if stop = i || !src.isAt ';' stop then none
  else (charOf? value).map fun c => (String.singleton c, stop + 1)

/-- The text that the reference at `i` stands for, and the position after it. -/
def read? (src : Source) (i : Nat) : Option (String × Nat) :=
  if !src.isAt '&' i then none
  else if src.isAt '#' (i + 1) then
    if src.anyAt (·.toLower == 'x') (i + 2) then numeric? src 16 6 hexValue? (i + 3)
    else numeric? src 10 7 decimalValue? (i + 2)
  else
    let stop := src.skip isAsciiAlphanumeric (i + 1)
    if src.isAt ';' stop then
      (named? (src.sliceString (i + 1) stop)).map (·, stop + 1)
    else none

end MarkdownPreview.Markdown.Entity
