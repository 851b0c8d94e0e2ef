import MarkdownPreview.Stream.Basic

/-!
A channel for bytes with faults: it may have room for only so many bytes, refuse pieces that begin
in a certain way, or fail when it is flushed.
-/

namespace MarkdownPreview

/-- How a channel fails. A channel whose room is used up fails the next write; `once` tells that it
recovers after that and takes everything. -/
structure Faults where
  once : Bool := false
  refused : List String := []
  flushFails : Bool := false
  deriving DecidableEq, Repr, Inhabited

/-- What a channel has received, and for how many more bytes it has room. -/
structure Channel where
  received : ByteArray := .empty
  room : Option Nat := none

namespace Channel

/-- Takes as many bytes as there is room for. A piece that does not fit is cut. -/
def send (once : Bool) (bytes : ByteArray) (c : Channel) : Option String × Channel :=
  match c.room with
  | none => (none, { c with received := c.received ++ bytes })
  | some room =>
    if bytes.size ≤ room then
      (none, ⟨c.received ++ bytes, some (room - bytes.size)⟩)
    else
      (some "full", ⟨c.received ++ bytes.extract 0 room, if once then none else some 0⟩)

/-- The stream of a channel with faults. -/
def stream (faults : Faults) : Stream Channel where
  write piece c :=
    if faults.refused.any (·.toList.isPrefixOf piece.toList) then (some "rejected", c)
    else c.send faults.once piece.toUTF8
  flush c := (if faults.flushFails then some "flush failed" else none, c)

end Channel

end MarkdownPreview
