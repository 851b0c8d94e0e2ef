import MarkdownPreview.Config.Basic
import MarkdownPreview.Toml.Reader

/-!
Settings in TOML. The table `render` has a `theme`, the table `output` a `standalone` flag and a
`title`; all may be missing, and keys that are not known do not count.
-/

namespace MarkdownPreview.Config

open Toml (Value Entries)

/-- The fields of a section: those of a table by their names, those of an array by their places.
A date is a section without these fields. -/
def fields? (names : List String) : Value → Option (List (Option Value))
  | .table _ entries => some (names.map (entries.lookup ·))
  | .array _ items => some ((List.range names.length).map (items[·]?))
  | .dateTime _ => some (names.map fun _ => none)
  | _ => none

/-- A field that may be missing. -/
def optional {α : Type} (decode? : Value → Option α) : Option Value → Option (Option α)
  | some v => (decode? v).map some
  | none => some none

def decodeString? : Value → Option String
  | .string s => some s
  | _ => none

def decodeBool? : Value → Option Bool
  | .boolean b => some b
  | _ => none

/-- A theme is given by its name, as a string or as the only key of a table, with nothing in it. -/
def decodeTheme? : Value → Option Theme
  | .string s => Theme.ofName? s
  | .table _ [(name, .table _ [])] | .table _ [(name, .array _ [])] => Theme.ofName? name
  | _ => none

def decodeRender? (part : Option Value) (settings : Settings) : Option Settings :=
  match part with
  | none => some settings
  | some v => do
    match ← fields? ["theme"] v with
    | [theme] => return { settings with theme := ← optional decodeTheme? theme }
    | _ => none

def decodeOutput? (part : Option Value) (settings : Settings) : Option Settings :=
  match part with
  | none => some settings
  | some v => do
    match ← fields? ["standalone", "title"] v with
    | [standalone, title] => return { settings with
        standalone := ← optional decodeBool? standalone
        title := ← optional decodeString? title }
    | _ => none

/-- The settings that a document gives. -/
def ofEntries? (entries : Entries) : Option Settings :=
  (decodeRender? (entries.lookup "render") {}).bind (decodeOutput? (entries.lookup "output"))

/-- The settings that a TOML text gives. -/
def decode (text : String) : Except String Settings :=
  match (Toml.read? text).bind ofEntries? with
  | some settings => .ok settings
  | none => .error "no settings in TOML"

end MarkdownPreview.Config
