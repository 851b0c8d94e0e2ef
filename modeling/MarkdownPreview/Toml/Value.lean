/-!
TOML values. A table remembers how it was written, and an array whether it was written with
headers: what may be added to them later depends on it.
-/

namespace MarkdownPreview.Toml

/-- How a table was written: with a header of its own, only as a part of longer headers, as a part
of dotted keys, or between braces. -/
inductive Origin
  | header | headerPart | keyPart | braces
  deriving DecidableEq, Repr, Inhabited

/-- Floats, dates and times are kept as they were written. -/
inductive Value
  | string (text : String)
  | boolean (b : Bool)
  | integer (n : Int)
  | float (literal : String)
  | dateTime (literal : String)
  | array (byHeaders : Bool) (items : List Value)
  | table (origin : Origin) (entries : List (String × Value))
  deriving Repr, Inhabited

/-- The keys and values of a table, in the order in which they were written. -/
abbrev Entries := List (String × Value)

end MarkdownPreview.Toml
