import MarkdownPreview.Files.Error
import MarkdownPreview.Files.Path

/-!
File trees: what there is under the root, found by paths that start at the root or at a working
directory. A file may have several names, links lead on to other paths, and a device has no content
of its own.
-/

namespace MarkdownPreview

/-- Where bytes go that are written. -/
inductive Sink
  | file (number : Nat)
  | standardOutput
  | nowhere
  | refused (cause : FileError)
  deriving DecidableEq, Repr

/-- A device: what is read from it, and where it puts what is written to it. -/
structure Device where
  input : List UInt8 := []
  sink : Sink := .nowhere
  deriving DecidableEq, Repr

/-- What a file tree holds under a name. Files are told apart by numbers; a link has the path that
it leads on to. -/
inductive FileEntry
  | directory
  | file (number : Nat)
  | link (target : String)
  | device (device : Device)
  deriving DecidableEq, Repr

/-- What there is where names lead from the root, and what is in the files. A name cannot be looked
for in a directory, and what there is cannot be read or written, where there is a fault, such as a
permission that is missing. -/
structure FileTree where
  lookup? : List String → Option FileEntry
  content : Nat → List UInt8
  /-- The number of the file that is made next. -/
  next : Nat
  searchFault? : List String → String → Option FileError := fun _ _ => none
  readFault? : List String → Option FileError := fun _ => none
  writeFault? : List String → Option FileError := fun _ => none
  number_lt_next : ∀ {names number}, lookup? names = some (.file number) → number < next

namespace FileTree

/-! ### Making trees -/

/-- The tree with nothing in it but its root. -/
def bare : FileTree where
  lookup? names := if names = [] then some .directory else none
  content _ := []
  next := 0
  number_lt_next {names number} h := by
    split at h <;> cases h

/-- The tree with an entry in the place of what there was. -/
def set (t : FileTree) (place : List String) (entry : FileEntry)
    (h : ∀ number, entry = .file number → number < t.next) : FileTree :=
  { t with
    lookup? := fun names => if names = place then some entry else t.lookup? names
    number_lt_next := by
      intro names number hentry
      split at hentry
      case isTrue => exact h number (Option.some.inj hentry)
      case isFalse => exact t.number_lt_next hentry }

/-- The tree with bytes as the content of a file. -/
def setContent (t : FileTree) (number : Nat) (bytes : List UInt8) : FileTree :=
  { t with content := fun other => if other = number then bytes else t.content other }

/-- The tree with a new file in the place of what there was. -/
def addFile (t : FileTree) (place : List String) (bytes : List UInt8) : FileTree :=
  let grown : FileTree :=
    { t.setContent t.next bytes with
      next := t.next + 1
      number_lt_next := fun h => Nat.lt_succ_of_lt (t.number_lt_next h) }
  grown.set place (.file t.next) fun _ h => FileEntry.file.inj h ▸ Nat.lt_succ_self t.next

/-- The tree after bytes are added to a file. -/
def append (t : FileTree) (number : Nat) (bytes : List UInt8) : FileTree :=
  t.setContent number (t.content number ++ bytes)

/-! ### Finding -/

/-- Where one name leads from a directory. -/
def enter (directory : List String) (name : String) : List String :=
  if Path.staysPut name then directory
  else if name = ".." then directory.dropLast
  else directory ++ [name]

/-- Where a path starts. -/
def start (workingDirectory : List String) (path : String) : List String :=
  if Path.isAbsolute path then [] else workingDirectory

/-- Where names lead. Every name is looked for in a directory. After a link, `onLink` tells where
the names of its target and those that are left lead from the directory that the link is in. -/
def followBy (t : FileTree)
    (onLink : (place names : List String) → Except FileError (List String)) :
    (place names : List String) → Except FileError (List String)
  | place, [] => .ok place
  | place, name :: rest =>
    match t.lookup? place, t.searchFault? place name with
    | some .directory, none =>
      match t.lookup? (enter place name) with
      | some (.link target) => onLink (start place target) (Path.names target ++ rest)
      | _ => followBy t onLink (enter place name) rest
    | some .directory, some e => .error e
    | some _, _ => .error .notDirectory
    | none, _ => .error .notFound

/-- Where names lead over at most so many links. -/
def followWithin (t : FileTree) : (links : Nat) → (place names : List String) →
    Except FileError (List String)
  | 0 => t.followBy fun _ _ => .error .tooManyLinks
  | links + 1 => t.followBy (t.followWithin links)

/-- How many links a path may lead over. -/
def maxLinks : Nat := 40

/-- Where a path leads; the empty path leads nowhere. -/
def locate (t : FileTree) (workingDirectory : List String) (path : String) :
    Except FileError (List String) :=
  if path = "" then .error .notFound
  else t.followWithin maxLinks (start workingDirectory path) (Path.names path)

/-- Whether there is something where a path leads. -/
def isPresent (t : FileTree) (workingDirectory : List String) (path : String) : Bool :=
  match t.locate workingDirectory path with
  | .ok place => (t.lookup? place).isSome
  | .error _ => false

/-! ### Reading and writing -/

/-- The content of a file, or what a device gives. -/
def read (t : FileTree) (workingDirectory : List String) (path : String) :
    Except FileError (List UInt8) :=
  (t.locate workingDirectory path).bind fun place =>
    match t.lookup? place, t.readFault? place with
    | none, _ => .error .notFound
    | some _, some e => .error e
    | some (.file number), none => .ok (t.content number)
    | some (.device device), none => .ok device.input
    | some .directory, none => .error .isDirectory
    | some (.link _), none => .error .tooManyLinks

/-- Where a path leads that may lead to a file that is not there: to a name in a directory that is
there. -/
def locateNew (t : FileTree) (workingDirectory : List String) (path : String) :
    Except FileError (List String) :=
  let names := Path.names path
  match names.reverse.dropWhile (· == "") with
  | [] => .error (if path = "" then .notFound else .isDirectory)
  | last :: before =>
    (t.followWithin maxLinks (start workingDirectory path) (before.reverse ++ ["."])).bind fun _ =>
      if Path.staysPut last || last == ".." || names.getLast? == some "" then .error .isDirectory
      else t.locate workingDirectory path

/-- Where what is written goes after a path is opened for writing, and the tree after that: a file
is made, or the one that is there is emptied. -/
def create (t : FileTree) (workingDirectory : List String) (path : String) :
    Except FileError (FileTree × Sink) :=
  (t.locateNew workingDirectory path).bind fun place =>
    match t.lookup? place, t.writeFault? place with
    | some .directory, _ => .error .isDirectory
    | some (.link _), _ => .error .tooManyLinks
    | _, some e => .error e
    | none, none => .ok (t.addFile place [], .file t.next)
    | some (.file number), none => .ok (t.setContent number [], .file number)
    | some (.device device), none => .ok (t, device.sink)

end FileTree

end MarkdownPreview
