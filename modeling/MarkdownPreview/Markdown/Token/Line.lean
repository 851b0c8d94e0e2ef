import MarkdownPreview.Markdown.Entity
import MarkdownPreview.Markdown.Token
import MarkdownPreview.Markdown.Unescape
import MarkdownPreview.Text.WhiteSpace

/-!
The tokens of one line of text, or of one cell of a table.
-/

namespace MarkdownPreview.Markdown

open Text

/-- The groups of braces that are open, the innermost first, and a number for the next one. An
unmatched closing brace begins a new outermost group. -/
structure Braces where
  groups : List Nat := []
  next : Nat := 1
  deriving DecidableEq, Repr, Inhabited

namespace Braces

/-- There is an outermost group as soon as anything depends on it. -/
def rooted (b : Braces) : Braces := if b.groups.isEmpty then { b with groups := [0] } else b

def current (b : Braces) : Nat := b.groups.headD 0

def opened (b : Braces) : Braces := ⟨b.next :: b.rooted.groups, b.next + 1⟩

def closed (b : Braces) : Braces :=
  match b.groups with
  | [] => b
  | [_] => ⟨[b.next], b.next + 1⟩
  | _ :: rest => { b with groups := rest }

end Braces

/-- What of a line is read: all of it, or one cell. -/
inductive LineMode
  | whole
  | cell
  deriving DecidableEq, Repr, Inhabited

namespace EmphasisRun

/-- Whether a run of `n` marks at `i` can open emphasis, in text that begins at `start`. -/
def canOpen (src : Source) (mode : LineMode) (mark : Char) (start i n : Nat) : Bool :=
  match src[i + n]? with
  | none => false
  | some next =>
    if isWhiteSpace next then false
    else if i = start then true
    else if mode = .cell && next == '|' then false
    else
      let before := src.getD (i - 1) ' '
      (mark == '*' && !isPunctuation next) || (mark == '~' && 1 < n) ||
        (mark == '~' && before == '~' && !isPunctuation next) ||
        isWhiteSpace before || isPunctuation before

/-- Whether a run of `n` marks at `i` can close emphasis. -/
def canClose (src : Source) (mode : LineMode) (mark : Char) (start i n : Nat) : Bool :=
  let before := src.getD (i - 1) ' '
  if i = start || isWhiteSpace before then false
  else match src[i + n]? with
    | none => true
    | some next =>
      if mode = .cell && next == '|' then true
      else
        ((mark == '*' || (mark == '~' && 1 < n)) && !isPunctuation before) ||
          (mark == '~' && before == '~') || isWhiteSpace next || isPunctuation next

end EmphasisRun

/-- The tokens of a line so far, newest first, where the pending text begins, and the vertical
lines that were passed. -/
structure LineState where
  textStart : Nat
  braces : Braces
  tokens : List Token := []
  escaped : Bool := false
  pipes : Nat := 0
  lastPipe : Nat := 0
  deriving DecidableEq, Repr, Inhabited

/-- A line that was read: the position where reading went on, and the break at its end. -/
structure Line where
  tokens : List Token
  next : Nat
  lineBreak : Option Token
  braces : Braces
  pipes : Nat
  lastPipe : Nat
  deriving DecidableEq, Repr, Inhabited

namespace LineState

/-- Ends the pending text at `i`. -/
def flush (s : LineState) (i : Nat) : LineState :=
  { s with
    tokens := if s.textStart < i then ⟨.text s.escaped, s.textStart, i⟩ :: s.tokens else s.tokens
    textStart := i
    escaped := false }

/-- Adds a token. -/
def push (s : LineState) (mark : Mark) (i j : Nat) : LineState :=
  let s := s.flush i
  { s with tokens := ⟨mark, i, j⟩ :: s.tokens, textStart := j }

/-- Drops the backslash at `i`. -/
def escape (s : LineState) (i : Nat) : LineState :=
  { s.flush i with textStart := i + 1, escaped := true }

def finish (s : LineState) (next : Nat) (lineBreak : Option Token) : Line :=
  ⟨s.tokens.reverse, next, lineBreak, s.braces, s.pipes, s.lastPipe⟩

/-- Ends a line without a break. -/
def finishText (s : LineState) (src : Source) (i : Nat) : Line :=
  (s.flush (src.skipBack isBlank s.textStart i)).finish i none

/-- Ends a line with a break. A backslash or two blanks before it make it a hard one; a backslash
at the end of the source does not. -/
def finishBreak (s : LineState) (src : Source) (i next : Nat) : Line :=
  let backslashes := i - src.skipBack (· == '\\') 0 i
  let stop := src.skipBack isBlank 0 i
  if backslashes % 2 = 1 && next < src.size then
    (s.flush (i - 1)).finish next (some ⟨.hardBreak true, i - 1, next⟩)
  else if 2 ≤ i - stop then
    (s.flush stop).finish next (some ⟨.hardBreak false, stop, next⟩)
  else (s.flush stop).finish next (some ⟨.softBreak, i, next⟩)

/-- A backslash. It takes the meaning from punctuation that follows it; backticks that follow it
make a token of their own. In a cell, two backslashes before a vertical line count as one. -/
def backslash (s : LineState) (src : Source) (mode : LineMode) (i : Nat) : LineState × Nat :=
  if !isPunctuationAt src (i + 1) then (s, i + 1)
  else if src.isAt '`' (i + 1) then
    let n := src.runLength '`' (i + 1)
    ({ s.flush i with textStart := i + 1 }.push (.backticks true) (i + 1) (i + 1 + n), i + 1 + n)
  else if mode = .cell && src.isAt '\\' (i + 1) && src.isAt '|' (i + 2) then
    ({ s.flush i with textStart := i + 2, escaped := true }, i + 3)
  else (s.escape i, i + 2)

/-- A run of emphasis marks. More than two tildes are text. -/
def emphasis (s : LineState) (src : Source) (mode : LineMode) (mark : Char) (start i : Nat) :
    LineState × Nat :=
  let n := src.runLength mark i
  let canOpen := EmphasisRun.canOpen src mode mark start i n
  let canClose := EmphasisRun.canClose src mode mark start i n
  if (canOpen || canClose) && (mark != '~' || n ≤ 2) then
    (s.push (.run mark canOpen canClose) i (i + n), i + n)
  else (s, i + n)

def dollar (s : LineState) (src : Source) (start i : Nat) : LineState :=
  let canOpen := src.anyAt (!isBlankOrLineEnd ·) (i + 1)
  let canClose := start < i && src.anyAt (!isBlankOrLineEnd ·) (i - 1)
  let s := { s with braces := s.braces.rooted }
  s.push (.dollar canOpen canClose s.braces.current) i (i + 1)

/-- Reads the character at `i`, which does not end the line; also gives the position after what
was read. -/
def step (s : LineState) (src : Source) (mode : LineMode) (start i : Nat) (c : Char) :
    LineState × Nat :=
  match c with
  | '\\' => s.backslash src mode i
  | '*' | '_' | '~' => s.emphasis src mode c start i
  | '$' => (s.dollar src start i, i + 1)
  | '{' => ({ s with braces := s.braces.opened }, i + 1)
  | '}' => ({ s with braces := s.braces.closed }, i + 1)
  | '`' =>
    let n := src.runLength '`' i
    (s.push (.backticks false) i (i + n), i + n)
  | '<' => if src.isAt '\\' (i + 1) then (s, i + 1) else (s.push .angle i (i + 1), i + 1)
  | '!' =>
    if src.isAt '[' (i + 1) then (s.push .imageBracket i (i + 2), i + 2) else (s, i + 1)
  | '[' => (s.push .bracket i (i + 1), i + 1)
  | ']' => (s.push .closingBracket i (i + 1), i + 1)
  | '&' =>
    match Entity.read? src i with
    | some (text, next) => (s.push (.entity text) i next, next)
    | none => (s, i + 1)
  | '|' => ({ s with pipes := s.pipes + 1, lastPipe := i }, i + 1)
  | _ => (s, i + 1)

/-- Reads from `i` on to the end of the line or cell. -/
def read (src : Source) (mode : LineMode) (start : Nat) : (fuel i : Nat) → LineState → Line
  | 0, i, s => s.finishText src i
  | fuel + 1, i, s =>
    match src[i]? with
    | none => s.finishText src i
    | some c =>
      if mode = .cell && (c == '|' || isLineEnd c) then s.finishText src i
      else if isLineEnd c then s.finishBreak src i ((src.lineEnd? i).getD i)
      else
        let (s, next) := s.step src mode start i c
        read src mode start fuel next s

end LineState

/-- The tokens of the line whose text begins at `i`. -/
def Line.read (src : Source) (mode : LineMode) (braces : Braces) (i : Nat) : Line :=
  LineState.read src mode i (src.size - i + 1) i { textStart := i, braces := braces }

end MarkdownPreview.Markdown
