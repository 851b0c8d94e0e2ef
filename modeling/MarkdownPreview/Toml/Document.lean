import MarkdownPreview.Toml.Value

/-!
Building a document from its headers and keys. A key has one value, a table has one header, and
what stands between braces or brackets is complete.
-/

namespace MarkdownPreview.Toml

namespace Entries

/-- Gives a key that is present another value. -/
def replace (key : String) (v : Value) (entries : Entries) : Entries :=
  entries.map fun e => if e.1 = key then (key, v) else e

def insert? (key : String) (v : Value) (entries : Entries) : Option Entries :=
  match entries.lookup key with
  | some _ => none
  | none => some (entries ++ [(key, v)])

/-- Changes the table at the end of a path. A table that is missing on the way is made, as a part
of the kind of path; of an array that was written with headers, the last table is meant. -/
def changeAt? (part : Origin) (change : Origin → Entries → Option Entries) :
    (path : List String) → Origin → Entries → Option Entries
  | [], origin, entries => change origin entries
  | key :: path, _, entries =>
    match entries.lookup key with
    | none =>
      (changeAt? part change path part []).map fun inner => entries ++ [(key, .table part inner)]
    | some (.table origin inner) =>
      if origin = .braces ∨ part = .keyPart ∧ origin = .header then none
      else (changeAt? part change path origin inner).map fun inner =>
        replace key (.table origin inner) entries
    | some (.array true items) =>
      match items.getLast? with
      | some (.table origin inner) =>
        (changeAt? part change path origin inner).map fun inner =>
          replace key (.array true (items.dropLast ++ [.table origin inner])) entries
      | _ => none
    | some _ => none

/-- Gives a dotted key a value. A dotted key adds only to tables that dotted keys made. -/
def addKey? (path : List String) (key : String) (v : Value) (origin : Origin)
    (entries : Entries) : Option Entries :=
  changeAt? .keyPart
    (fun origin entries =>
      if decide (origin = .keyPart) = path.isEmpty then none else entries.insert? key v)
    path origin entries

/-- Opens the table of a header. -/
def openTable? (path : List String) (key : String) (entries : Entries) : Option Entries :=
  changeAt? .headerPart
    (fun _ entries => match entries.lookup key with
      | none => some (entries ++ [(key, .table .header [])])
      | some (.table .headerPart inner) => some (entries.replace key (.table .header inner))
      | some _ => none)
    path .header entries

/-- Opens one more table of an array that is written with headers. -/
def openItem? (path : List String) (key : String) (entries : Entries) : Option Entries :=
  changeAt? .headerPart
    (fun _ entries => match entries.lookup key with
      | none => some (entries ++ [(key, .array true [.table .header []])])
      | some (.array true items) =>
        some (entries.replace key (.array true (items ++ [.table .header []])))
      | some _ => none)
    path .header entries

end Entries

/-- The part of a document that is read: its entries, and the table to which keys are added. -/
structure Document where
  entries : Entries := []
  current : List String := []
  deriving Repr, Inhabited

namespace Document

def addKey? (doc : Document) (path : List String) (key : String) (v : Value) : Option Document :=
  (doc.entries.changeAt? .headerPart (Entries.addKey? path key v) doc.current .header).map
    fun entries => { doc with entries }

def openTable? (doc : Document) (path : List String) (key : String) : Option Document :=
  (doc.entries.openTable? path key).map fun entries => ⟨entries, path ++ [key]⟩

def openItem? (doc : Document) (path : List String) (key : String) : Option Document :=
  (doc.entries.openItem? path key).map fun entries => ⟨entries, path ++ [key]⟩

end Document

end MarkdownPreview.Toml
