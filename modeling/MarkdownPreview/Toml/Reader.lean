import MarkdownPreview.Toml.Document
import MarkdownPreview.Toml.Quoted
import MarkdownPreview.Toml.Scalar

/-!
Reading TOML documents.
-/

namespace MarkdownPreview.Toml

def isBareKeyPart (c : Char) : Bool := c.isAlphanum || c == '_' || c == '-'

/-- A key is bare, or a string on one line. -/
def key? : Reader String := fun cs =>
  match openQuotes? cs with
  | some (q, _) => if q.isTriple then none else string? cs
  | none =>
    match cs.span isBareKeyPart with
    | ([], _) => none
    | (key, rest) => some (String.ofList key, rest)

/-- A dotted key: the keys before the last one, and the last one. -/
def keyPath? : (fuel : Nat) → Reader (List String × String)
  | 0, _ => none
  | fuel + 1, cs => do
    let (key, rest) ← key? (skipBlanks cs)
    match skipBlanks rest with
    | '.' :: rest =>
      let ((path, last), rest) ← keyPath? fuel rest
      return ((key :: path, last), rest)
    | rest => return (([], key), rest)

def dottedKey? : Reader (List String × String) := fun cs => keyPath? cs.length cs

/-- A key, an equals sign and a value. -/
def pair? (value? : Reader Value) : Reader ((List String × String) × Value) := fun cs => do
  let (key, rest) ← dottedKey? cs
  match rest with
  | '=' :: rest =>
    let (v, rest) ← value? (skipBlanks rest)
    return ((key, v), rest)
  | _ => none

/-- The values of an array whose opening bracket is already read. -/
def items? (value? : Reader Value) : (fuel : Nat) → Reader (List Value)
  | 0, _ => none
  | fuel + 1, cs => do
    match ← skipSpace? false cs with
    | ']' :: rest => return ([], rest)
    | cs =>
      let (v, rest) ← value? cs
      match ← skipSpace? false rest with
      | ',' :: rest =>
        let (vs, rest) ← items? value? fuel rest
        return (v :: vs, rest)
      | ']' :: rest => return ([v], rest)
      | _ => none

/-- The entries of a table whose opening brace is already read. -/
def entries? (value? : Reader Value) : (fuel : Nat) → Entries → Reader Entries
  | 0, _, _ => none
  | fuel + 1, entries, cs => do
    match ← skipSpace? false cs with
    | '}' :: rest => return (entries, rest)
    | cs =>
      let (((path, key), v), rest) ← pair? value? cs
      let entries ← entries.addKey? path key v .braces
      match ← skipSpace? false rest with
      | ',' :: rest => entries? value? fuel entries rest
      | '}' :: rest => return (entries, rest)
      | _ => none

/-- A value, in which brackets and braces are at most `depth` deep. -/
def value? : (depth : Nat) → Reader Value
  | _, '"' :: rest => (string? ('"' :: rest)).map fun (s, rest) => (.string s, rest)
  | _, '\'' :: rest => (string? ('\'' :: rest)).map fun (s, rest) => (.string s, rest)
  | depth + 1, '[' :: rest =>
    (items? (value? depth) (rest.length + 1) rest).map fun (vs, rest) => (.array false vs, rest)
  | depth + 1, '{' :: rest =>
    (entries? (value? depth) (rest.length + 1) [] rest).map fun (es, rest) =>
      (.table .braces es, rest)
  | _, cs =>
    let (text, rest) := splitScalar cs
    (scalar? text).map (·, rest)

/-- How deep brackets and braces may be. -/
def maxDepth : Nat := 80

/-- One header or one pair, which takes the rest of its line, or a line without them. -/
def line? (doc : Document) (cs : List Char) : Option (Document × List Char) :=
  match endLine? false cs, skipBlanks cs with
  | some rest, _ => some (doc, rest)
  | none, '[' :: '[' :: rest => do
    let ((path, key), rest) ← dottedKey? rest
    match rest with
    | ']' :: ']' :: rest => return (← doc.openItem? path key, ← endLine? false rest)
    | _ => none
  | none, '[' :: rest => do
    let ((path, key), rest) ← dottedKey? rest
    match rest with
    | ']' :: rest => return (← doc.openTable? path key, ← endLine? false rest)
    | _ => none
  | none, cs => do
    let (((path, key), v), rest) ← pair? (value? maxDepth) cs
    return (← doc.addKey? path key v, ← endLine? false rest)

def lines? : (fuel : Nat) → Document → List Char → Option Document
  | _, doc, [] => some doc
  | 0, _, _ => none
  | fuel + 1, doc, cs => (line? doc cs).bind fun (doc, rest) => lines? fuel doc rest

/-- The entries of a document. A byte order mark at its start does not count. -/
def read? (text : String) : Option Entries :=
  let cs := match text.toList with
    | '\uFEFF' :: rest => rest
    | cs => cs
  (lines? cs.length {} cs).map (·.entries)

end MarkdownPreview.Toml
