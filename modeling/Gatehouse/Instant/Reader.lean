import Gatehouse.Instant.Basic
import Gatehouse.Text.Blank

/-!
# Reading instants

Three notations are read, tried in this order:

* a timestamp with offset: `2024-01-01T10:00:00.5+01:00`, every number in full width;
* date and time without offset, taken as UTC: numbers may be short and may follow blanks, a year of
  more than four digits needs a sign;
* a date alone, which stands for its midnight in UTC.

The whole text must be used. Second 60 is a leap second, in any minute.
-/

namespace Gatehouse.Instant

/-! ### Numbers -/

/-- The value of a decimal digit. -/
def digitValue? (c : Char) : Option Nat :=
  if '0' ≤ c ∧ c ≤ '9' then some (c.toNat - '0'.toNat) else none

/-- Read on up to `most` digits. -/
def readDigits (acc : Nat) : (most : Nat) → List Char → Nat × List Char
  | 0, cs => (acc, cs)
  | _ + 1, [] => (acc, [])
  | most + 1, c :: cs =>
    match digitValue? c with
    | some d => readDigits (acc * 10 + d) most cs
    | none => (acc, c :: cs)

/-- A number of `least` to `most` digits, as many as there are. -/
def number? (least most : Nat) (cs : List Char) : Option (Nat × List Char) :=
  let (n, rest) := readDigits 0 most cs
  if cs.length - rest.length < least then none else some (n, rest)

/-- Exactly this character. -/
def char? (c : Char) : List Char → Option (List Char)
  | [] => none
  | d :: ds => if d = c then some ds else none

/-- One of two characters. -/
def oneOf? (accepted : List Char) : List Char → Option (List Char)
  | [] => none
  | d :: ds => if accepted.contains d then some ds else none

/-- A fraction of a second, after its point: at least one digit. The tenth digit and those after it
are dropped. -/
def fraction? (cs : List Char) : Option (Nat × List Char) := do
  let (n, rest) ← number? 1 9 cs
  let digits := cs.length - rest.length
  return (n * Nat.pow 10 (9 - digits), rest.dropWhile fun c => (digitValue? c).isSome)

/-- A fraction with its point, or nothing for none. -/
def optionalFraction? : List Char → Option (Nat × List Char)
  | '.' :: cs => fraction? cs
  | cs => some (0, cs)

/-! ### Clock time -/

/-- The time of a day as it is written. -/
structure ClockTime where
  hour : Nat
  minute : Nat
  /-- From 0 to 60. -/
  second : Nat
  nano : Nat

/-- Date and time as an instant in UTC, if both exist. -/
def ofDateAndTime? (d : Date) (t : ClockTime) : Option Instant :=
  if d.isValid && t.hour < 24 && t.minute < 60 && t.second ≤ 60 then
    let (second, leap) := if t.second = 60 then (59, nanosPerSecond) else (t.second, 0)
    some ⟨(ofDate d).second + (t.hour * 3600 + t.minute * 60 + second : Nat), leap + t.nano⟩
  else none

/-! ### Timestamps with offset -/

/-- An offset from UTC in seconds: `Z`, or a sign, hours and minutes. -/
def offset? : List Char → Option (Int × List Char)
  | [] => none
  | c :: cs =>
    if c = 'Z' || c = 'z' then some (0, cs)
    else if c = '+' || c = '-' || c = '\u2212' then do
      let (hours, cs) ← number? 2 2 cs
      let cs ← char? ':' cs
      let (minutes, cs) ← number? 2 2 cs
      if minutes < 60 && hours < 24 then
        let seconds : Int := hours * 3600 + minutes * 60
        some (if c = '+' then seconds else -seconds, cs)
      else none
    else none

/-- A timestamp with offset. -/
def timestamp? (text : List Char) : Option Instant := do
  let (year, cs) ← number? 4 4 text
  let cs ← char? '-' cs
  let (month, cs) ← number? 2 2 cs
  let cs ← char? '-' cs
  let (day, cs) ← number? 2 2 cs
  let cs ← oneOf? ['T', 't', ' '] cs
  let (hour, cs) ← number? 2 2 cs
  let cs ← char? ':' cs
  let (minute, cs) ← number? 2 2 cs
  let cs ← char? ':' cs
  let (second, cs) ← number? 2 2 cs
  let (nano, cs) ← optionalFraction? cs
  let (offset, cs) ← offset? cs
  if cs.isEmpty then
    let t ← ofDateAndTime? ⟨year, month, day⟩ ⟨hour, minute, second, nano⟩
    some ⟨t.second - offset, t.nano⟩
  else none

/-! ### Dates and times without offset -/

/-- A year: up to four digits, or a sign and any number of digits. Blanks may stand before it. -/
def year? (text : List Char) : Option (Int × List Char) :=
  match Text.trimStart text with
  | '-' :: cs => (number? 1 cs.length cs).map fun (n, rest) => (-(n : Int), rest)
  | '+' :: cs => (number? 1 cs.length cs).map fun (n, rest) => ((n : Int), rest)
  | cs => (number? 1 4 cs).map fun (n, rest) => ((n : Int), rest)

/-- A number of one or two digits. Blanks may stand before it. -/
def short? (text : List Char) : Option (Nat × List Char) := number? 1 2 (Text.trimStart text)

/-- Year, month and day. -/
def shortDate? (text : List Char) : Option (Date × List Char) := do
  let (year, cs) ← year? text
  let cs ← char? '-' cs
  let (month, cs) ← short? cs
  let cs ← char? '-' cs
  let (day, cs) ← short? cs
  return (⟨year, month, day⟩, cs)

/-- Date and time without offset. -/
def localTime? (text : List Char) : Option Instant := do
  let (date, cs) ← shortDate? text
  let cs ← char? 'T' cs
  let (hour, cs) ← short? cs
  let cs ← char? ':' cs
  let (minute, cs) ← short? cs
  let cs ← char? ':' cs
  let (second, cs) ← short? cs
  let (nano, cs) ← optionalFraction? cs
  if cs.isEmpty then ofDateAndTime? date ⟨hour, minute, second, nano⟩ else none

/-- A date alone. -/
def midnight? (text : List Char) : Option Instant := do
  let (date, cs) ← shortDate? text
  if cs.isEmpty && date.isValid then some (ofDate date) else none

/-- Read a text as an instant. -/
def parse? (text : String) : Option Instant :=
  let cs := text.toList
  (timestamp? cs).or <| (localTime? cs).or (midnight? cs)

end Gatehouse.Instant
