import MarkdownPreview.Markdown.Heading
import MarkdownPreview.Markdown.Table

/-!
Paragraphs, and what a paragraph turns into: a heading, when a line below underlines it, or a
table, when its second line is a row of hyphens.
-/

namespace MarkdownPreview.Markdown.Paragraph

/-- The backslash of a hard break at the end of a paragraph, which is text there. -/
def finalBackslash : Option Token → List Token
  | some ⟨.hardBreak true, start, _⟩ => [⟨.text false, start, start + 1⟩]
  | _ => []

/-- Whether a table opens with a line that was read as text. -/
def tableHead? (src : Source) (prefixes : List LinePrefix) (start : Nat) (line : Line) :
    Option (List Alignment × Nat) :=
  match line.lineBreak with
  | none | some ⟨.hardBreak true, _, _⟩ => none
  | some _ => TableHead.read? src prefixes start line.pipes line.lastPipe line.next

/-- Reads the lines from `i` on; `tokens` are those of the lines before. -/
def readLines (src : Source) (prefixes : List LinePrefix) (start : Nat) :
    (fuel : Nat) → (braces : Braces) → (i : Nat) → (tokens : List Token) → Block × Nat
  | 0, _, i, tokens => (.paragraph false ⟨tokens, i, prefixes, false⟩, i)
  | fuel + 1, braces, i, tokens =>
    let line := Line.read src .whole braces i
    match if i = start then tableHead? src prefixes start line else none with
    | some (alignments, body) =>
      let (head, rows, next) :=
        Table.read src prefixes alignments.length line.braces start body
      (.table alignments head rows, next)
    | none =>
      let tokens := tokens ++ line.tokens
      let backslash := finalBackslash line.lineBreak
      let done : Block × Nat :=
        (.paragraph false ⟨tokens ++ backslash, line.next, prefixes, false⟩, line.next)
      let (inside, k) := LinePrefix.enterLine src prefixes line.next
      let k' := k.shallow? src
      match if inside then k'.bind fun k => underline? src k.pos else none with
      | some (level, next) =>
        (Heading.ofParagraph src prefixes level start next backslash tokens, next)
      | none =>
        let k'' := (k'.getD (k.spacesUpTo src 4).2).allSpaces src
        if k'.any (fun k => interruptsParagraph src prefixes inside k.pos) || k''.atLineEnd src
        then done
        else readLines src prefixes start fuel line.braces k''.pos
          (tokens ++ line.lineBreak.toList)

/-- The paragraph, heading or table whose text begins at `i`, and the position after it. -/
def read (src : Source) (prefixes : List LinePrefix) (i : Nat) : Block × Nat :=
  readLines src prefixes i (src.size - i + 1) {} i []

end MarkdownPreview.Markdown.Paragraph
