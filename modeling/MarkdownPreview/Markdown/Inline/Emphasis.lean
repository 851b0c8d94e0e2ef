import MarkdownPreview.Markdown.Inline

/-!
Emphasis: runs of marks are paired, and what stands between the marks of a pair becomes its
content. Marks without a partner are text.
-/

namespace MarkdownPreview.Markdown

/-- A piece of inline content whose emphasis is not resolved. -/
inductive Piece
  | settled (x : Inline)
  | backslashBreak
  | run (mark : Char) (length : Nat) (canOpen canClose : Bool)
  deriving Inhabited

namespace Piece

def text (s : String) : Piece := .settled (.text s)

def isRun : Piece → Bool
  | run .. => true
  | _ => false

end Piece

namespace Emphasis

/-- A run that may open emphasis: its marks that are left, its full length, whether it could also
have closed, and the content after it, newest first. -/
structure Opener where
  mark : Char
  count : Nat
  length : Nat
  both : Bool
  content : List Inline
  deriving Inhabited

/-- The content before the first opener, newest first, the openers, the innermost first, and the
number of openers from the outside that tildes are not paired with any more. -/
structure State where
  bottom : List Inline := []
  openers : List Opener := []
  tildeFloor : Nat := 0
  deriving Inhabited

/-- Marks as text. -/
def literal (mark : Char) (n : Nat) : Inline := .text (String.ofList (List.replicate n mark))

def State.add (s : State) (x : Inline) : State :=
  match s.openers with
  | [] => { s with bottom := x :: s.bottom }
  | o :: rest => { s with openers := { o with content := x :: o.content } :: rest }

/-- Whether a closing run is paired with an opener. Tildes need runs of one length. Runs that can
both open and close are not paired when their lengths add up to a multiple of three, unless both
are multiples of three. -/
def Opener.pairs (o : Opener) (mark : Char) (length : Nat) (both : Bool) : Bool :=
  o.mark == mark && (mark != '~' || o.length == length) &&
    ((!both && !o.both) || (length + o.length) % 3 != 0 || length % 3 == 0)

/-- Content in `n` pairs of marks. Pairs of two are the inner ones. -/
def wrap (mark : Char) (n : Nat) (content : List Inline) : List Inline :=
  match n with
  | 0 => content
  | 1 => [if mark == '~' then .strikethrough content else .emphasis content]
  | n + 2 => wrap mark n [if mark == '~' then .strikethrough content else .strong content]

/-- The content of openers that stay without a partner, after what stands before them. -/
def flatten (openers : List Opener) (before : List Inline) : List Inline :=
  openers.foldr (fun o before => o.content ++ literal o.mark o.count :: before) before

/-- The position of the innermost opener that a closing run is paired with. -/
def State.partner? (s : State) (mark : Char) (length : Nat) (both : Bool) : Option Nat :=
  let reach := if mark == '~' then s.openers.length - s.tildeFloor else s.openers.length
  (s.openers.take reach).findIdx? (·.pairs mark length both)

/-- Pairs `count` marks of a closing run with openers, as far as there are any; also gives the
number of marks that are left. -/
def State.close (mark : Char) (length : Nat) (both : Bool) :
    (fuel count : Nat) → State → State × Nat
  | 0, count, s => (s, count)
  | fuel + 1, count, s =>
    if count = 0 then (s, 0)
    else match s.partner? mark length both with
      | none =>
        ({ s with tildeFloor := if mark == '~' then s.openers.length else s.tildeFloor }, count)
      | some d =>
        match s.openers.drop d with
        | [] => (s, count)
        | o :: outer =>
          let content := (flatten (s.openers.take d) o.content).reverse
          let n := min count o.count
          let wrapped := wrap mark n content
          let s' : State := ⟨s.bottom, outer, min s.tildeFloor outer.length⟩
          let s' :=
            if n < o.count then
              { s' with openers := { o with count := o.count - n, content := wrapped } :: outer }
            else wrapped.foldl State.add s'
          close mark length both fuel (count - n) s'

def State.piece (s : State) : Piece → State
  | .settled x => s.add x
  | .backslashBreak => s.add .hardBreak
  | .run mark length canOpen canClose =>
    let both := canOpen && canClose
    let (s, count) := if canClose then s.close mark length both length length else (s, length)
    if count = 0 then s
    else if canOpen then
      { s with openers := ⟨mark, count, length, both, []⟩ :: s.openers }
    else s.add (literal mark count)

/-- A hard break at the end of content with emphasis marks in it is a backslash. -/
def settleEnd (pieces : List Piece) : List Piece :=
  match pieces.getLast? with
  | some .backslashBreak =>
    if pieces.any (·.isRun) then pieces.dropLast ++ [.text "\\"] else pieces
  | _ => pieces

/-- The inline content of pieces. -/
def resolve (pieces : List Piece) : List Inline :=
  let s := (settleEnd pieces).foldl State.piece {}
  (flatten s.openers s.bottom).reverse

end Emphasis

end MarkdownPreview.Markdown
