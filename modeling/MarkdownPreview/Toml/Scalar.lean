import MarkdownPreview.Toml.Digit
import MarkdownPreview.Toml.Value

/-!
TOML values without quotes: booleans, integers, floats, dates and times.
-/

namespace MarkdownPreview.Toml

/-- A decimal number does not start with a zero that it does not need. -/
def decimal? : List Char → Option Nat
  | '0' :: _ :: _ => none
  | cs => digits? 10 0 cs

/-- A sign, which may be missing, and what it stands before. -/
def splitSign : List Char → Bool × List Char
  | '-' :: rest => (true, rest)
  | '+' :: rest => (false, rest)
  | cs => (false, cs)

def signed (isNegative : Bool) (n : Nat) : Int := if isNegative then -n else n

/-- An integer must fit into 128 bits, with or without a sign bit. -/
def integer? (cs : List Char) : Option Int := do
  let n ← match cs with
    | '0' :: 'x' :: ds => (digits? 16 0 ds).map Int.ofNat
    | '0' :: 'o' :: ds => (digits? 8 0 ds).map Int.ofNat
    | '0' :: 'b' :: ds => (digits? 2 0 ds).map Int.ofNat
    | cs =>
      let (isNegative, ds) := splitSign cs
      (decimal? ds).map (signed isNegative)
  if -(Nat.pow 2 127 : Int) ≤ n ∧ n < Nat.pow 2 128 then some n else none

/-- Whether `digits * 10 ^ exponent` is nearer to a finite number of 64 bits than to infinity. -/
def isFinite (digits : Nat) (exponent : Int) : Bool :=
  let size := (Nat.toDigits 10 digits).length + exponent
  digits == 0 || size < 309 || (size == 309 &&
    let overflow := Nat.pow 2 1024 - Nat.pow 2 970
    if 0 ≤ exponent then digits * Nat.pow 10 exponent.toNat < overflow
    else digits < overflow * Nat.pow 10 (-exponent).toNat)

/-- A float has a fraction or an exponent, or is infinite or no number by name. -/
def isFloat (cs : List Char) : Bool :=
  let (_, cs) := splitSign cs
  cs == ['i', 'n', 'f'] || cs == ['n', 'a', 'n'] ||
  let (mantissa, power) := cs.span fun c => c != 'e' && c != 'E'
  let (whole, fraction) := mantissa.span (· != '.')
  let exponent? : Option Int := match power with
    | [] => some 0
    | _ :: power =>
      let (isNegative, power) := splitSign power
      (digits? 10 0 power).map (signed isNegative)
  match decimal? whole, fraction, exponent? with
  | some n, [], some e => !power.isEmpty && isFinite n e
  | some n, _ :: fraction, some e =>
    (digits? 10 n fraction).any fun n => isFinite n (e - (fraction.filter (· != '_')).length)
  | _, _, _ => false

def isLeapYear (year : Nat) : Bool := year % 4 == 0 && (year % 100 != 0 || year % 400 == 0)

def daysIn (year month : Nat) : Nat :=
  if month = 2 then if isLeapYear year then 29 else 28
  else if month = 4 ∨ month = 6 ∨ month = 9 ∨ month = 11 then 30
  else 31

/-- The text after a calendar date. -/
def skipDate? : List Char → Option (List Char)
  | y₁ :: y₂ :: y₃ :: y₄ :: '-' :: m₁ :: m₂ :: '-' :: d₁ :: d₂ :: rest => do
    let year ← digits? 10 0 [y₁, y₂, y₃, y₄]
    let month ← digits? 10 0 [m₁, m₂]
    let day ← digits? 10 0 [d₁, d₂]
    if 1 ≤ month ∧ month ≤ 12 ∧ 1 ≤ day ∧ day ≤ daysIn year month then some rest else none
  | _ => none

/-- The text after hours and minutes. -/
def skipMinutes? : List Char → Option (List Char)
  | h₁ :: h₂ :: ':' :: m₁ :: m₂ :: rest => do
    let hour ← digits? 10 0 [h₁, h₂]
    let minute ← digits? 10 0 [m₁, m₂]
    if hour < 24 ∧ minute < 60 then some rest else none
  | _ => none

/-- The text after seconds, which may be missing. There are leap seconds. -/
def skipSeconds? : List Char → Option (List Char)
  | ':' :: s₁ :: s₂ :: rest => do
    let second ← digits? 10 0 [s₁, s₂]
    if second ≤ 60 then
      match rest with
      | '.' :: c :: rest => if c.isDigit then some (rest.dropWhile Char.isDigit) else none
      | '.' :: [] => none
      | rest => some rest
    else none
  | rest => some rest

def skipTime? (cs : List Char) : Option (List Char) := (skipMinutes? cs).bind skipSeconds?

def isOffset : List Char → Bool
  | [] => true
  | ['Z'] | ['z'] => true
  | '+' :: rest | '-' :: rest => skipMinutes? rest == some []
  | _ => false

/-- A date, a time of day, or both, then perhaps with an offset. -/
def isDateTime (cs : List Char) : Bool :=
  match skipDate? cs with
  | some [] => true
  | some (c :: rest) => (c == 'T' || c == 't' || c == ' ') && (skipTime? rest).any isOffset
  | none => skipTime? cs == some []

def scalar? (cs : List Char) : Option Value :=
  let text := String.ofList cs
  if text = "true" then some (.boolean true)
  else if text = "false" then some (.boolean false)
  else match integer? cs with
    | some n => some (.integer n)
    | none =>
      if isFloat cs then some (.float text)
      else if isDateTime cs then some (.dateTime text)
      else none

/-- Characters of values without quotes. -/
def isScalarPart (c : Char) : Bool := c.isAlphanum || "+-_.:".toList.contains c

/-- The characters of the value without quotes at the start of a text. A blank may stand between a
date and a time. -/
def splitScalar (cs : List Char) : List Char × List Char :=
  let (first, rest) := cs.span isScalarPart
  match skipDate? first, rest with
  | some [], ' ' :: d :: rest =>
    if d.isDigit then
      let (second, rest) := (d :: rest).span isScalarPart
      (first ++ ' ' :: second, rest)
    else (first, ' ' :: d :: rest)
  | _, _ => (first, rest)

end MarkdownPreview.Toml
