import MarkdownPreview.Markdown.Inline.Emphasis
import MarkdownPreview.Markdown.Inline.Span
import MarkdownPreview.Markdown.LinkDefinition

/-!
Reading inline content. Tokens are taken from left to right: code, mathematics and HTML take the
tokens that they span, and a closing bracket makes a link of what follows the innermost open one,
if a target comes after it or its label is defined.
-/

namespace MarkdownPreview.Markdown

/-- What labels refer to. -/
structure References where
  definitions : List LinkDefinition
  footnotes : List String
  deriving Inhabited

namespace References

/-- The target of a label. The first definition counts. -/
def target? (r : References) (label : String) : Option LinkTarget :=
  (r.definitions.find? fun d => LinkLabel.key d.label == LinkLabel.key label).map (·.target)

def isFootnote (r : References) (label : String) : Bool :=
  r.footnotes.contains (LinkLabel.key label)

end References

/-- An open bracket: whether it is an image's, whether it may still open a link, its position, and
the pieces before it, newest first. -/
structure OpenBracket where
  image : Bool
  active : Bool
  start : Nat
  before : List Piece
  deriving Inhabited

/-- The pieces after the innermost open bracket, newest first, the open brackets, the closing
brackets that were tried as the end of a reference, and the size of the targets that references
may still repeat. -/
structure InlineState where
  pieces : List Piece := []
  brackets : List OpenBracket := []
  tried : List Nat := []
  budget : Nat
  deriving Inhabited

namespace OpenBracket

def text (b : OpenBracket) : String := if b.image then "![" else "["

/-- There are no links in links. -/
def deactivated (b : OpenBracket) : OpenBracket := { b with active := b.active && b.image }

/-- Pieces after a bracket that is text. -/
def flatten (b : OpenBracket) (pieces : List Piece) : List Piece :=
  pieces ++ .text b.text :: b.before

end OpenBracket

namespace InlineState

def add (s : InlineState) (p : Piece) : InlineState := { s with pieces := p :: s.pieces }

def addText (s : InlineState) (text : String) : InlineState := s.add (.text text)

/-- Turns all open brackets into text. -/
def flatten (s : InlineState) : InlineState :=
  { s with pieces := s.brackets.foldl (fun pieces b => b.flatten pieces) s.pieces, brackets := [] }

def openBracket (s : InlineState) (image : Bool) (start : Nat) : InlineState :=
  { s with pieces := [], brackets := ⟨image, true, start, s.pieces⟩ :: s.brackets }

/-- Makes a link or an image of the pieces after a bracket. A link closes the brackets before it to
other links. -/
def link (s : InlineState) (b : OpenBracket) (outer : List OpenBracket) (target : LinkTarget) :
    InlineState :=
  let children := Emphasis.resolve s.pieces.reverse
  let x : Inline := if b.image then .image target children else .link target children
  { s with
    pieces := .settled x :: b.before
    brackets := if b.image then outer else outer.map (·.deactivated) }

/-- A reference to a footnote. All open brackets become text. -/
def footnote (s : InlineState) (b : OpenBracket) (outer : List OpenBracket) (label : String) :
    InlineState :=
  let before := if b.image then .text "!" :: b.before else b.before
  { s with pieces := .settled (.footnote label) :: before, brackets := outer }.flatten

/-- The target of a reference, as long as the budget lasts. -/
def repeatTarget? (s : InlineState) (r : References) (label : String) :
    Option (LinkTarget × InlineState) :=
  if s.budget = 0 then none
  else (r.target? label).map fun target =>
    (target, { s with budget := s.budget - target.size })

end InlineState

namespace LinkTarget

/-- Parentheses that may be open in the destination of a link, less one. -/
def nestingLimit : Nat := 5

/-- The position after blanks with at most one line end among them. -/
def skipSpace (p : Passage) (i : Nat) : Nat :=
  let i := p.src.skip isBlank i
  match p.src.lineEnd? i with
  | some next => p.src.skip isBlank (p.lineText next)
  | none => i

/-- Where a title goes on after the line end at `i`: with the first token that begins after it. -/
def resume? (tokens : List Token) (i : Nat) : Option Nat :=
  match tokens.find? (i + 1 < ·.stop) with
  | some t => if i < t.start then some t.start else none
  | none => none

/-- Reads a title up to its closing mark; `out` holds what was read, newest first. -/
def titleFrom? (p : Passage) (tokens : List Token) (opening closing : Char) :
    (fuel i : Nat) → List Char → Option (List Char × Nat)
  | 0, _, _ => none
  | fuel + 1, i, out =>
    match p.src[i]? with
    | none => none
    | some c =>
      if c == closing then some (out.reverse, i + 1)
      else if c == opening then none
      else match if isLineEnd c then resume? tokens i else none with
        | some next => titleFrom? p tokens opening closing fuel next ('\n' :: out)
        | none =>
          match Entity.read? p.src i with
          | some (text, next) =>
            titleFrom? p tokens opening closing fuel next (text.toList.reverse ++ out)
          | none =>
            if p.inTable && p.src.textAt ['\\', '\\', '|'] i then
              titleFrom? p tokens opening closing fuel (i + 3) ('|' :: out)
            else if c == '\\' && isPunctuationAt p.src (i + 1) then
              titleFrom? p tokens opening closing fuel (i + 2) (p.src.getD (i + 1) c :: out)
            else titleFrom? p tokens opening closing fuel (i + 1) (c :: out)

/-- The title at `i`, and the position after it. -/
def title? (p : Passage) (tokens : List Token) (i : Nat) : Option (String × Nat) :=
  p.src[i]?.bind fun opening => (titleClosing? opening).bind fun closing =>
    (titleFrom? p tokens opening closing (p.src.size - i) (i + 1) []).map fun (title, next) =>
      (String.ofList title, next)

/-- The target in parentheses that begins at `i`, and the position after it. -/
def inline? (p : Passage) (tokens : List Token) (i : Nat) : Option (LinkTarget × Nat) :=
  if !p.src.isAt '(' i then none
  else
    (destination? p.src p.inTable nestingLimit (skipSpace p (i + 1))).bind fun (url, stop) =>
      let i := skipSpace p stop
      let (title, i) := match title? p tokens i with
        | some (title, next) => (title, skipSpace p next)
        | none => ("", i)
      if p.src.isAt ')' i then some (⟨url, title⟩, i + 1) else none

end LinkTarget

namespace Passage

/-- The label in brackets that begins at `i`. -/
def label? (p : Passage) (i : Nat) : Option (String × Nat) :=
  if p.src.isAt '[' i then
    LinkLabel.read? p.src p.inTable (fun j => some (p.lineText j)) (i + 1)
  else none

end Passage

/-- How a reference goes on after a closing bracket: with a label of its own that ends at a
position, with empty brackets, or not at all. -/
inductive ReferenceEnd
  | label (label : String) (stop : Nat)
  | empty
  | none
  deriving DecidableEq, Repr, Inhabited

def Passage.referenceEnd (p : Passage) : List Token → ReferenceEnd
  | [] => .none
  | t :: _ =>
    if p.src.textAt ['[', ']'] t.start then .empty
    else if p.src.textAt ['[', '^'] t.start then .none
    else match p.label? t.start with
      | some (label, stop) => .label label stop
      | none => .none

namespace InlineState

variable (r : References) (p : Passage)

/-- A closing bracket whose text is the label itself; `rest` are the tokens after it and `after`
those after the reference. -/
def shortcut (s : InlineState) (b : OpenBracket) (outer : List OpenBracket) (t : Token)
    (rest after : List Token) : InlineState × List Token :=
  let failed : InlineState × List Token :=
    ({ s with pieces := .text "]" :: b.flatten s.pieces, brackets := outer }, rest)
  let start := if b.image then b.start + 1 else b.start
  if s.tried.contains t.start then failed
  else if p.src.isAt '^' (start + 1) then
    match LinkLabel.footnote? p.src p.inTable start with
    | some (label, stop) =>
      if stop = t.stop && r.isFootnote label then (s.footnote b outer label, rest) else failed
    | none => failed
  else match p.label? start with
    | some (label, stop) =>
      if stop = t.stop then
        match s.repeatTarget? r label with
        | some (target, s) => (s.link b outer target, after)
        | none => failed
      else failed
    | none => failed

/-- A closing bracket. -/
def closeBracket (s : InlineState) (t : Token) (rest : List Token) : InlineState × List Token :=
  match s.brackets with
  | [] => (s.addText "]", rest)
  | b :: outer =>
    let failed (s : InlineState) : InlineState × List Token :=
      ({ s with pieces := .text "]" :: b.flatten s.pieces, brackets := outer }, rest)
    if !b.active then failed s
    else match LinkTarget.inline? p rest t.stop with
      | some (target, next) => (s.link b outer target, Token.dropTo next rest)
      | none =>
        match p.referenceEnd rest with
        | .label label stop =>
          match Token.dropTo (stop - 1) rest with
          | [] => failed s
          | closing :: after =>
            let s := { s with tried := closing.start :: s.tried }
            match s.repeatTarget? r label with
            | some (target, s) => (s.link b outer target, after)
            | none => failed s
        | .empty => shortcut r p s b outer t rest (rest.drop 2)
        | .none => shortcut r p s b outer t rest rest

/-- Backticks. Code ends with the next run of the same length; of escaped backticks the first is
text. -/
def backticks (s : InlineState) (t : Token) (escaped : Bool) (rest : List Token) :
    InlineState × List Token :=
  let n := if escaped then t.length - 1 else t.length
  let closes (u : Token) : Bool := u.length == n && match u.mark with
    | .backticks _ => true
    | _ => false
  match if n = 0 then none else rest.findIdx? closes with
  | some k =>
    match rest.drop k with
    | closing :: after =>
      let s := if escaped then s.addText "\x60" else s
      (s.add (.settled (.code (p.codeText t.stop closing.start))), after)
    | [] => (s, [])
  | none => (s.addText (p.src.sliceString t.start t.stop), rest)

/-- A dollar sign that may open mathematics. The next one in the same group of braces closes it;
two together open and close displayed mathematics. -/
def dollar (s : InlineState) (t : Token) (group : Nat) (rest : List Token) :
    InlineState × List Token :=
  let failed : InlineState × List Token := (s.addText "$", rest)
  let display := rest.head?.any (·.isDollar)
  let inGroup (u : Token) : Bool := match u.mark with
    | .dollar _ _ g => g == group
    | _ => false
  match (if display then rest.tail else rest).dropWhile (!inGroup ·) with
  | [] => failed
  | closing :: after =>
    if display then
      match after with
      | second :: after =>
        if second.isDollar then
          (s.add (.settled (.math true (p.mathText (t.stop + 1) closing.start))), after)
        else failed
      | [] => failed
    else match closing.mark with
      | .dollar _ true _ =>
        (s.add (.settled (.math false (p.mathText t.stop closing.start))), after)
      | _ => failed

/-- A `<`: an address or HTML begins with it, or it is text. -/
def angle (s : InlineState) (t : Token) (rest : List Token) : InlineState × List Token :=
  if rest.isEmpty then (s.addText "<", rest)
  else match Autolink.read? p.src t.stop with
    | some (uri, next) =>
      (s.add (.settled (.link ⟨uri, ""⟩ [.text uri])), Token.dropTo next rest)
    | none =>
      match InlineHtml.read? p t.start with
      | some (html, next) => (s.add (.settled (.html html)), Token.dropTo next rest)
      | none => (s.addText "<", rest)

/-- Reads a token; `rest` are those after it. Also gives the tokens that are left. -/
def step (s : InlineState) (t : Token) (rest : List Token) : InlineState × List Token :=
  match t.mark with
  | .text _ => (s.addText (p.src.sliceString t.start t.stop), rest)
  | .entity text => (s.addText text, rest)
  | .run mark canOpen canClose => (s.add (.run mark t.length canOpen canClose), rest)
  | .backticks escaped => s.backticks p t escaped rest
  | .dollar true _ group => s.dollar p t group rest
  | .dollar false _ _ => (s.addText "$", rest)
  | .angle => s.angle p t rest
  | .bracket => (s.openBracket false t.start, rest)
  | .imageBracket => (s.openBracket true t.start, rest)
  | .closingBracket => s.closeBracket r p t rest
  | .softBreak => (s.add (.settled .softBreak), rest)
  | .hardBreak false => (s.add (.settled .hardBreak), rest)
  | .hardBreak true => (s.add .backslashBreak, rest)

def run : (fuel : Nat) → InlineState → List Token → InlineState
  | 0, s, _ => s
  | _ + 1, s, [] => s
  | fuel + 1, s, t :: rest =>
    let (s, rest) := step r p s t rest
    run fuel s rest

end InlineState

/-- The inline content of a block, and the budget that it leaves. -/
def Content.inlines (src : Source) (r : References) (budget : Nat) (c : Content) :
    List Inline × Nat :=
  let p : Passage := ⟨src.upTo c.stop, c.prefixes, c.inTable⟩
  let s := (InlineState.run r p c.tokens.length { budget := budget } c.tokens).flatten
  (Emphasis.resolve s.pieces.reverse, s.budget)

end MarkdownPreview.Markdown
