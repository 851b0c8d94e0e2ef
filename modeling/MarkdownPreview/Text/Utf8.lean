/-!
UTF-8. A sequence of bytes is read as a text strictly, or with every maximal part that is not UTF-8
replaced by the replacement character.
-/

namespace MarkdownPreview.Text

/-- The bytes of a text. -/
def encodeUtf8 (cs : List Char) : List UInt8 := cs.flatMap String.utf8EncodeChar

/-- A character that is being read: bytes still owed, bounds of the next byte, bits so far. -/
structure Unfinished where
  owed : Nat
  low : Nat
  high : Nat
  bits : Nat
  deriving DecidableEq, Repr

/-- What the first byte of a character of several bytes asks for. -/
def lead? (n : Nat) : Option Unfinished :=
  if n < 0xC2 then none
  else if n < 0xE0 then some ⟨1, 0x80, 0xBF, n % 0x20⟩
  else if n = 0xE0 then some ⟨2, 0xA0, 0xBF, n % 0x10⟩
  else if n = 0xED then some ⟨2, 0x80, 0x9F, n % 0x10⟩
  else if n < 0xF0 then some ⟨2, 0x80, 0xBF, n % 0x10⟩
  else if n = 0xF0 then some ⟨3, 0x90, 0xBF, n % 0x08⟩
  else if n < 0xF4 then some ⟨3, 0x80, 0xBF, n % 0x08⟩
  else if n = 0xF4 then some ⟨3, 0x80, 0x8F, n % 0x08⟩
  else none

/-- Where a reader of bytes stands: what it has read, the last character first, with nothing in the
place of a faulty part, and the character it is in. -/
structure Utf8Reader where
  done : List (Option Char) := []
  current : Option Unfinished := none
  deriving DecidableEq, Repr

namespace Utf8Reader

/-- Reads a byte that stands between two characters. -/
def readFirst (done : List (Option Char)) (n : Nat) : Utf8Reader :=
  if n < 0x80 then ⟨some (Char.ofNat n) :: done, none⟩
  else match lead? n with
    | some start => ⟨done, some start⟩
    | none => ⟨none :: done, none⟩

/-- Reads a byte. One that cannot continue the current character ends it as a faulty part, and
stands for itself. -/
def read (r : Utf8Reader) (b : UInt8) : Utf8Reader :=
  let n := b.toNat
  match r.current with
  | none => readFirst r.done n
  | some c =>
    if c.low ≤ n ∧ n ≤ c.high then
      let bits := c.bits * 0x40 + n % 0x40
      if c.owed ≤ 1 then ⟨some (Char.ofNat bits) :: r.done, none⟩
      else ⟨r.done, some ⟨c.owed - 1, 0x80, 0xBF, bits⟩⟩
    else readFirst (none :: r.done) n

/-- What was read at the end of the bytes. -/
def finish (r : Utf8Reader) : List (Option Char) :=
  (if r.current.isSome then none :: r.done else r.done).reverse

end Utf8Reader

/-- The characters of a sequence of bytes, with nothing in the place of each faulty part. -/
def decodeUtf8 (bytes : List UInt8) : List (Option Char) :=
  (bytes.foldl Utf8Reader.read {}).finish

/-- The text, with the replacement character in the place of each faulty part. -/
def decodeLossy (bytes : List UInt8) : String :=
  String.ofList ((decodeUtf8 bytes).map (·.getD '\uFFFD'))

/-- The text, if no part is faulty. -/
def decodeStrict? (bytes : List UInt8) : Option String :=
  ((decodeUtf8 bytes).mapM id).map String.ofList

end MarkdownPreview.Text
