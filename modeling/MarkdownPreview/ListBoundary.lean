import MarkdownPreview.ListStart
import MarkdownPreview.Text.WhiteSpace

/-!
List boundaries: a blank line is put before a line that starts a list and follows a line of text,
so that the list is read as one. Fence lines, and all lines between an opening and a closing one,
stay as they are.
-/

namespace MarkdownPreview

open Text

abbrev Line := List Char

/-- A line that opens or closes fenced code: three backticks or tildes after white space. -/
def isFenceLine (line : Line) : Bool :=
  match trim line with
  | '`' :: '`' :: '`' :: _ => true
  | '~' :: '~' :: '~' :: _ => true
  | _ => false

/-- What is carried from line to line, and from text to text. -/
structure ListBoundary where
  inFence : Bool := false
  insertions : Nat := 0
  deriving DecidableEq, Repr, Inhabited

namespace ListBoundary

/-- Whether a blank line goes between two lines outside of fences. -/
def parts (previous line : Line) : Bool :=
  let previous := trim previous
  !previous.isEmpty && ListStart.startsList (trim line) && !ListStart.startsList previous

/-- The state after a line, and whether a blank line goes before it. -/
def step (state : ListBoundary) (previous : Option Line) (line : Line) : ListBoundary × Bool :=
  if isFenceLine line then ({ state with inFence := !state.inFence }, false)
  else if state.inFence then (state, false)
  else if previous.any (parts · line) then
    ({ state with insertions := state.insertions + 1 }, true)
  else (state, false)

/-- The lines with the blank ones put in. -/
def separateLines (state : ListBoundary) (previous : Option Line) :
    List Line → List Line × ListBoundary
  | [] => ([], state)
  | line :: rest =>
    let (state, blank) := state.step previous line
    let (lines, state) := separateLines state (some line) rest
    ((if blank then [[], line] else [line]) ++ lines, state)

/-- Puts the blank lines into a text; also gives the state for the text that follows. -/
def separate (state : ListBoundary) (text : String) : String × ListBoundary :=
  let (lines, state) := state.separateLines none (splitAt '\n' text.toList)
  (String.ofList (joinWith '\n' lines), state)

/-- A text with its list boundaries set off. -/
def normalize (text : String) : String := (separate {} text).1

end ListBoundary

end MarkdownPreview
