import Gatehouse.Pattern.Basic

/-!
# The footprint of a pattern

How large a pattern becomes as a machine over UTF-8 bytes, in bytes of memory. Patterns are refused
above `Pattern.footprintLimit`, so that a repeated repetition cannot grow without bound. The count is
that of a machine that reads a text backwards, with a state for each byte range of a character class,
shared between characters that begin with the same bytes.

The count is an estimate. A machine is built from a simplified pattern, and this one is counted as it
was written, so that close to the limit patterns can fall on the wrong side of it (`Pattern.footprint`).
-/

namespace Gatehouse

open Unicode (CharSet)

namespace Footprint

/-- Memory of one state. -/
def state : Nat := 32

/-- Memory of one range of bytes inside a state. -/
def branch : Nat := 8

/-- Memory of one way on inside a state that chooses. -/
def choice : Nat := 4

/-- Split a range of numbers of `level + 1` digits to base 64 into blocks: each block is a list of
digit ranges, the leading digit first. -/
def blocks : (level : Nat) → (low high : Nat) → List (List (Nat × Nat))
  | 0, low, high => [[(low, high)]]
  | level + 1, low, high =>
    let size := 1 <<< (6 * (level + 1))
    let first := low / size
    let last := high / size
    let inside (digit low high : Nat) := (blocks level low high).map ((digit, digit) :: ·)
    if first = last then inside first (low % size) (high % size)
    else
      let head := if low % size = 0 then [] else inside first (low % size) (size - 1)
      let tail := if high % size = size - 1 then [] else inside last 0 (high % size)
      let start := if head.isEmpty then first else first + 1
      let stop := if tail.isEmpty then last + 1 else last
      let middle :=
        if start < stop then [(start, stop - 1) :: List.replicate (level + 1) (0, 63)] else []
      head ++ middle ++ tail

/-- The code points that UTF-8 writes in one, two, three and four bytes; surrogates are not written. -/
def lengths : List (Nat × Nat × Nat) :=
  [(0, 0, 0x7F), (1, 0x80, 0x7FF), (2, 0x800, 0xD7FF), (2, 0xE000, 0xFFFF), (3, 0x10000, 0x10FFFF)]

/-- The byte sequences of a set, each led by a mark for its length. -/
def sequences (s : CharSet) : List (List (Nat × Nat)) :=
  s.ranges.flatMap fun r => lengths.flatMap fun (level, low, high) =>
    let a := max r.1 low
    let b := min r.2 high
    if a ≤ b then (blocks level a b).map ((level, level) :: ·) else []

/-- How many elements two lists share at their start. -/
def shared : List (Nat × Nat) → List (Nat × Nat) → Nat
  | a :: as, b :: bs => if a = b then shared as bs + 1 else 0
  | _, _ => 0

/-- The states of a list of sequences in order: what each does not share with the one before it. -/
def states (previous : List (Nat × Nat)) : List (List (Nat × Nat)) → Nat
  | [] => 0
  | s :: rest => (s.length - max 1 (shared previous s)) + states s rest

/-- The number of bytes of a code point. -/
def width (n : Nat) : Nat :=
  if n < 0x80 then 1 else if n < 0x800 then 2 else if n < 0x10000 then 3 else 4

/-- The footprint of a class of several characters. -/
def ofClass (s : CharSet) : Nat :=
  if s.isAscii then 2 * state + branch * s.ranges.length
  else
    let seqs := sequences s
    2 * state + choice * seqs.length + state * states [] seqs

/-- The footprint of a set: a single character takes a state for each of its bytes. -/
def ofSet (s : CharSet) : Nat :=
  match s.ranges with
  | [(a, b)] => if a = b then state * width a else ofClass s
  | _ => ofClass s

end Footprint

namespace Pattern

/-- Only the empty piece can be described. -/
def onlyEmpty : Pattern → Bool
  | .empty | .look _ => true
  | .one _ => false
  | .seq p q | .alt p q => p.onlyEmpty && q.onlyEmpty
  | .copies p _ most => p.onlyEmpty || most = some 0
  | .capture p => p.onlyEmpty

/-- The empty piece may be described. -/
def mayBeEmpty : Pattern → Bool
  | .empty | .look _ => true
  | .one _ => false
  | .seq p q => p.mayBeEmpty && q.mayBeEmpty
  | .alt p q => p.mayBeEmpty || q.mayBeEmpty
  | .copies p least most => least = 0 || p.mayBeEmpty || most = some 0
  | .capture p => p.mayBeEmpty

/-- The memory that a pattern takes as a machine, by estimate. It is too much where an alternation has
single characters only, such as `0|1|2`, which is one class to the machine. It is too little where an
alternation has sequences of several characters, which the machine joins by further states. -/
def footprint : Pattern → Nat
  | .empty | .look _ => Footprint.state
  | .one s => Footprint.ofSet s
  | .seq p q => p.footprint + q.footprint
  | .alt p q => p.footprint + q.footprint + Footprint.state + 2 * Footprint.choice
  | .copies p least most =>
    let chooser := Footprint.state + 2 * Footprint.choice
    match most with
    | none =>
      if least = 0 then
        p.footprint + chooser + if p.mayBeEmpty then chooser + Footprint.state else 0
      else p.footprint * least + chooser
    | some m =>
      let rest := m - least
      (if least = 0 && rest = 0 then Footprint.state else p.footprint * least) +
        if rest = 0 then 0 else Footprint.state + rest * (p.footprint + chooser)
  | .capture p => p.footprint + 2 * Footprint.state

/-- The largest footprint allowed. -/
def footprintLimit : Nat := 10 * 1024 * 1024

end Pattern

end Gatehouse
