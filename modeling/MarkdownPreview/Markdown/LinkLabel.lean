import MarkdownPreview.Markdown.Source
import MarkdownPreview.Text.CaseFold

/-!
Link labels: the text in brackets that names a link definition or a footnote. White space within a
label counts as one space, and case does not count.
-/

namespace MarkdownPreview.Markdown.LinkLabel

/-- A label is shorter than this. Letters, digits and punctuation of ASCII are not counted. -/
def limit : Nat := 1000

/-- The length of a character in the count. -/
def weight (c : Char) : Nat := if c.toNat < 0x80 then 0 else c.utf8Size

/-- The position after white space with at most one line end in it. `enter` leads from the start
of a line to its text, if the label may go on there. -/
def skipSpace? (src : Source) (enter : Nat → Option Nat) :
    (fuel : Nat) → (newline : Bool) → (i : Nat) → Option Nat
  | 0, _, i => some i
  | fuel + 1, newline, i =>
    let i := src.skip isBlank i
    if src.anyAt isLineEnd i then
      if newline then none
      else ((src.lineEnd? i).bind enter).bind (skipSpace? src enter fuel true)
    else some i

/-- Reads a label up to its closing bracket; `out` holds what was read, newest first. -/
def readFrom (src : Source) (inTable : Bool) (enter : Nat → Option Nat) :
    (fuel count i : Nat) → List Char → Option (List Char × Nat)
  | 0, _, _, _ => none
  | fuel + 1, count, i, out =>
    if limit ≤ count then none
    else match src[i]? with
      | none => none
      | some c =>
        if c == '[' then none
        else if c == ']' then some (out.reverse, i + 1)
        else if c == '\\' then
          match src[i + 1]? with
          | none => none
          | some d =>
            let out := if inTable && d == '|' then d :: out else d :: c :: out
            readFrom src inTable enter fuel (count + max 2 (1 + d.utf8Size)) (i + 2) out
        else if isBlankOrLineEnd c then
          match skipSpace? src enter 3 false i with
          | none => none
          | some j => readFrom src inTable enter fuel (count + (j - i)) j (' ' :: out)
        else readFrom src inTable enter fuel (count + weight c) (i + 1) (c :: out)

def trim (label : List Char) : List Char :=
  ((label.dropWhile (· == ' ')).reverse.dropWhile (· == ' ')).reverse

/-- The label whose text begins at `i`, after the opening bracket, and the position after its
closing bracket. A label is not blank. -/
def read? (src : Source) (inTable : Bool) (enter : Nat → Option Nat) (i : Nat) :
    Option (String × Nat) :=
  match readFrom src inTable enter (src.size - i + 1) 0 i [] with
  | some (label, next) =>
    match trim label with
    | [] => none
    | label => some (String.ofList label, next)
  | none => none

/-- Labels with the same key are the same. -/
def key (label : String) : String := Text.caseFold label

/-- The label of a footnote, with the position after it. It stays in its line; `i` is at the
opening bracket. -/
def footnote? (src : Source) (inTable : Bool) (i : Nat) : Option (String × Nat) :=
  if src.textAt ['[', '^'] i then read? src inTable (fun _ => none) (i + 2) else none

/-- The label of a footnote definition, with the position after its colon. -/
def footnoteDefinition? (src : Source) (i : Nat) : Option (String × Nat) :=
  (footnote? src false i).bind fun (label, next) =>
    if src.isAt ':' next then some (label, next + 1) else none

end MarkdownPreview.Markdown.LinkLabel
