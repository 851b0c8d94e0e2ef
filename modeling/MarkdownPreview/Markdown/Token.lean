import MarkdownPreview.Markdown.LinePrefix

/-!
Tokens: the pieces of a line of text that may have a meaning for the inline structure. A token is a
stretch of the source with its mark.
-/

namespace MarkdownPreview.Markdown

/-- What a token may stand for. Runs of emphasis marks know whether they can open or close; dollar
signs also belong to a group of braces. -/
inductive Mark
  | text (escaped : Bool)
  | entity (text : String)
  | run (mark : Char) (canOpen canClose : Bool)
  | backticks (escaped : Bool)
  | dollar (canOpen canClose : Bool) (group : Nat)
  | angle
  | bracket
  | imageBracket
  | closingBracket
  | softBreak
  | hardBreak (backslash : Bool)
  deriving DecidableEq, Repr, Inhabited

structure Token where
  mark : Mark
  start : Nat
  stop : Nat
  deriving DecidableEq, Repr, Inhabited

namespace Token

def length (t : Token) : Nat := t.stop - t.start

def isDollar (t : Token) : Bool :=
  match t.mark with
  | .dollar .. => true
  | _ => false

/-- The tokens without those before a position. -/
def dropTo (i : Nat) (ts : List Token) : List Token :=
  match ts.dropWhile (·.stop ≤ i) with
  | t :: ts => { t with start := max t.start i } :: ts
  | [] => []

end Token

/-- The text of a block: its tokens, the position where the block ends, and what is needed to find
the text of its lines. -/
structure Content where
  tokens : List Token
  stop : Nat
  prefixes : List LinePrefix
  inTable : Bool
  deriving DecidableEq, Repr, Inhabited

end MarkdownPreview.Markdown
