import Gatehouse.Calendar

/-!
# Instants

A point in time: a second counted from the start of 1970 and the nanoseconds into it. A leap second
is counted with the second before it, as nanoseconds from `10⁹` up, so that instants are ordered
first by second and then by nanosecond.
-/

namespace Gatehouse

/-- A point in time. -/
structure Instant where
  /-- Whole seconds since 1970. -/
  second : Int
  /-- Nanoseconds into the second; from `10⁹` on they are those of a leap second. -/
  nano : Nat
  deriving DecidableEq, Repr, Inhabited

/-- The largest span of whole seconds: its milliseconds fit a signed 64-bit word. -/
def Span.longest : Int := 9223372036854775

/-- A span of whole seconds, forward or back. -/
structure Span where
  seconds : Int
  bounded : -Span.longest ≤ seconds ∧ seconds ≤ Span.longest
  deriving DecidableEq, Repr

/-- The span of some seconds, if they are not too many. -/
def Span.ofSeconds? (seconds : Int) : Option Span :=
  if h : -Span.longest ≤ seconds ∧ seconds ≤ Span.longest then some ⟨seconds, h⟩ else none

namespace Instant

/-- Nanoseconds in a second. -/
def nanosPerSecond : Nat := 1000000000

/-- Seconds in a day. -/
def secondsPerDay : Int := 86400

/-- Compare in time. -/
def cmp (a b : Instant) : Ordering := (compare a.second b.second).then (compare a.nano b.nano)

/-- Strictly earlier. -/
def before (a b : Instant) : Bool := a.cmp b == .lt

/-- Whole milliseconds since 1970; 0 for an earlier instant. -/
def millis (t : Instant) : Nat := t.second.toNat * 1000 + t.nano / 1000000

/-- The instant that holds a date's midnight. -/
def ofDate (d : Date) : Instant := ⟨d.dayNumber * secondsPerDay, 0⟩

/-- The first second of the calendar. -/
def firstSecond : Int := (Date.mk Calendar.firstYear 1 1).dayNumber * secondsPerDay

/-- One more than the last second of the calendar. -/
def endSecond : Int := (Date.mk (Calendar.lastYear + 1) 1 1).dayNumber * secondsPerDay

/-- The second lies in the calendar. -/
def inCalendar (t : Instant) : Bool := firstSecond ≤ t.second && t.second < endSecond

/-- Move by whole seconds. There is no result out of the calendar. A leap second moved forward lands on
the second after it. -/
def add? (t : Instant) (span : Span) : Option Instant :=
  let seconds := span.seconds
  let moved : Instant :=
    if t.nano < nanosPerSecond || seconds = 0 then ⟨t.second + seconds, t.nano⟩
    else if 0 < seconds then ⟨t.second + seconds, t.nano - nanosPerSecond⟩
    else ⟨t.second + 1 + seconds, t.nano - nanosPerSecond⟩
  if moved.inCalendar then some moved else none

end Instant

end Gatehouse
