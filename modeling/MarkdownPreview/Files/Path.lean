import MarkdownPreview.Text.WhiteSpace

/-!
Paths. A path is a text in which slashes separate names; a directory is also given by the names
that lead to it from the root.
-/

namespace MarkdownPreview.Path

/-- The names of a path. There is an empty one before a slash at the start, after one at the end
and between two that are adjacent. -/
def names (path : String) : List String :=
  (Text.splitAt '/' path.toList).map String.ofList

def isAbsolute (path : String) : Bool := path.toList.head? == some '/'

/-- Names that lead nowhere. -/
def staysPut (name : String) : Bool := name == "" || name == "."

/-- The components by which paths are compared. Slashes that are repeated or come last do not count,
and a dot counts only at the start of a path. -/
def components (path : String) : List String :=
  let start :=
    if isAbsolute path then ["/"]
    else if (names path).head? == some "." then ["."]
    else []
  start ++ (names path).filter (!staysPut ·)

example : components "-//." = ["-"] ∧ components "./-" = [".", "-"] ∧
    components "/-" = ["/", "-"] := by
  decide +kernel

/-- The absolute path of the file or directory to which names lead from the root. -/
def absolute (names : List String) : String := "/" ++ "/".intercalate names

/-- The names that lead from the root to where an absolute path leads. -/
def namesFromRoot (path : String) : List String := (names path).filter (!staysPut ·)

/-- The name of the file at the end of a path, if the path does not end by going up. -/
def fileName? (path : String) : Option String :=
  match ((names path).filter (!staysPut ·)).getLast? with
  | some name => if name = ".." then none else some name
  | none => none

/-- A directory and the directories that it is in, the nearest first. -/
def ancestors : List String → List (List String)
  | [] => [[]]
  | name :: rest => (ancestors rest).map (name :: ·) ++ [[]]

end MarkdownPreview.Path
