import Gatehouse.Instant.Basic

/-!
# Instants as text

An instant is written in UTC as `YYYY-MM-DDTHH:MM:SS`, a fraction and `Z`. A leap second is written as
second 60. Years outside `0` to `9999` carry a sign.
-/

namespace Gatehouse.Instant

/-- A number in at least `width` digits. -/
def padded (width n : Nat) : String :=
  let digits := toString n
  String.ofList (List.replicate (width - digits.length) '0') ++ digits

/-- A year in four digits, with a sign outside `0` to `9999`. -/
def yearText (y : Int) : String :=
  if 0 ≤ y && y ≤ 9999 then padded 4 y.toNat
  else (if y < 0 then "-" else "+") ++ padded 4 y.natAbs

/-- The date on which an instant falls. -/
def date (t : Instant) : Date := Date.ofDayNumber (t.second / secondsPerDay)

/-- The seconds into the day. -/
def secondOfDay (t : Instant) : Nat := (t.second % secondsPerDay).toNat

/-- The nanoseconds after the written second. -/
def writtenNano (t : Instant) : Nat := if t.nano < nanosPerSecond then t.nano else t.nano - nanosPerSecond

/-- The second of the minute as it is written. -/
def writtenSecond (t : Instant) : Nat :=
  t.secondOfDay % 60 + if t.nano < nanosPerSecond then 0 else 1

/-- Date and time to the second. -/
def wholeSeconds (t : Instant) : String :=
  let d := t.date
  let s := t.secondOfDay
  yearText d.year ++ "-" ++ padded 2 d.month ++ "-" ++ padded 2 d.day ++ "T" ++
    padded 2 (s / 3600) ++ ":" ++ padded 2 (s / 60 % 60) ++ ":" ++ padded 2 t.writtenSecond

/-- With three digits of the second, the rest cut off. -/
def renderMillis (t : Instant) : String :=
  t.wholeSeconds ++ "." ++ padded 3 (t.writtenNano / 1000000) ++ "Z"

/-- With nine digits of the second. -/
def renderNanos (t : Instant) : String := t.wholeSeconds ++ "." ++ padded 9 t.writtenNano ++ "Z"

/-- With as few of zero, three, six or nine digits of the second as are exact. -/
def render (t : Instant) : String :=
  let n := t.writtenNano
  if n = 0 then t.wholeSeconds ++ "Z"
  else if n % 1000000 = 0 then t.renderMillis
  else if n % 1000 = 0 then t.wholeSeconds ++ "." ++ padded 6 (n / 1000) ++ "Z"
  else t.renderNanos

end Gatehouse.Instant
