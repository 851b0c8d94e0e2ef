/-!
Digits, in the bases in which TOML writes numbers.
-/

namespace MarkdownPreview.Toml

def digit? (base : Nat) (c : Char) : Option Nat :=
  let n :=
    if c.isDigit then c.toNat - '0'.toNat
    else if 'a' ≤ c ∧ c ≤ 'f' then c.toNat - 'a'.toNat + 10
    else if 'A' ≤ c ∧ c ≤ 'F' then c.toNat - 'A'.toNat + 10
    else base
  if n < base then some n else none

/-- Reads digits; `value` is the number that the digits before them make. Single underscores may
stand between digits. -/
def digits? (base : Nat) (value : Nat) : List Char → Option Nat
  | [] => none
  | [c] => (digit? base c).map (value * base + ·)
  | c :: '_' :: rest => (digit? base c).bind fun d => digits? base (value * base + d) rest
  | c :: rest => (digit? base c).bind fun d => digits? base (value * base + d) rest

end MarkdownPreview.Toml
