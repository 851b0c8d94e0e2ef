/-!
Task markers: `[ ]`, `[x]` or `[X]` at the start of a list item's text.
-/

namespace MarkdownPreview.TaskMarker

/-- Whether the box at the start of a text is checked, with the text after it. -/
def parseChars? : List Char → Option (Bool × List Char)
  | '[' :: mark :: ']' :: rest =>
    if mark = ' ' then some (false, rest)
    else if mark = 'x' ∨ mark = 'X' then some (true, rest)
    else none
  | _ => none

def parse? (text : String) : Option (Bool × String) :=
  (parseChars? text.toList).map fun (checked, rest) => (checked, String.ofList rest)

/-- The checkbox as it is written. -/
def checkbox (checked : Bool) : String :=
  if checked then "<input type=\"checkbox\" disabled class=\"task-list-item-checkbox\" checked>"
  else "<input type=\"checkbox\" disabled class=\"task-list-item-checkbox\">"

/-- The opening tag of an item that has a box. -/
def itemOpening : String := "<li class=\"task-list-item\">"

end MarkdownPreview.TaskMarker
