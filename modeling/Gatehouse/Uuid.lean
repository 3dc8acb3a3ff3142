/-!
# Identifiers

Identifiers of 128 bits. They are written as 32 hexadecimal digits in five groups with hyphens. Reading
also takes the digits without hyphens, and the written form in braces or after `urn:uuid:`.
-/

namespace Gatehouse

/-- An identifier of 128 bits. -/
structure Uuid where
  bits : BitVec 128
  deriving DecidableEq, Repr

namespace Uuid

/-- The identifier of 48 bits, 16 bits that begin with the version, and 62 bits. -/
def assemble (high middle low : Nat) : Uuid :=
  ⟨BitVec.ofNat 48 high ++ BitVec.ofNat 16 middle ++ (0b10#2) ++ BitVec.ofNat 62 low⟩

/-- A random identifier (version 4) with the given bits, of which six are fixed. -/
def random (n : Nat) : Uuid :=
  assemble (n >>> 80) (0x4000 + (n >>> 64) % 0x1000) n

/-- An identifier (version 7) that begins with a time in milliseconds and goes on with random bits. -/
def timed (millis n : Nat) : Uuid :=
  assemble millis (0x7000 + (n >>> 64) % 0x1000) n

/-- The version of an identifier: how it was made. -/
def version (u : Uuid) : Nat := (u.bits.toNat >>> 76) % 16

/-! ### Writing -/

/-- A hexadecimal digit in lower case. -/
def digit (n : Nat) : Char :=
  if n < 10 then Char.ofNat ('0'.toNat + n) else Char.ofNat ('a'.toNat + (n - 10))

/-- The lowest `count` hexadecimal digits of a number. -/
def digits (n : Nat) : (count : Nat) → List Char
  | 0 => []
  | count + 1 => digit ((n >>> (4 * count)) % 16) :: digits n count

/-- The written form as characters. -/
def renderChars (u : Uuid) : List Char :=
  let n := u.bits.toNat
  digits (n >>> 96) 8 ++ '-' :: digits (n >>> 80) 4 ++ '-' :: digits (n >>> 64) 4 ++
    '-' :: digits (n >>> 48) 4 ++ '-' :: digits n 12

/-- The written form. -/
def render (u : Uuid) : String := String.ofList u.renderChars

/-! ### Reading -/

/-- The value of a hexadecimal digit. -/
def digitValue? (c : Char) : Option Nat :=
  if '0' ≤ c ∧ c ≤ '9' then some (c.toNat - '0'.toNat)
  else if 'a' ≤ c ∧ c ≤ 'f' then some (c.toNat - 'a'.toNat + 10)
  else if 'A' ≤ c ∧ c ≤ 'F' then some (c.toNat - 'A'.toNat + 10)
  else none

/-- The number of some hexadecimal digits. -/
def number? (acc : Nat) : List Char → Option Nat
  | [] => some acc
  | c :: cs =>
    match digitValue? c with
    | some d => number? (acc * 16 + d) cs
    | none => none

/-- 32 digits. -/
def simple? (cs : List Char) : Option Uuid :=
  if cs.length = 32 then (number? 0 cs).map fun n => ⟨BitVec.ofNat 128 n⟩ else none

/-- 32 digits with hyphens after the 8th, 12th, 16th and 20th. -/
def hyphenated? (cs : List Char) : Option Uuid :=
  let isHyphen (i : Nat) : Bool := cs[i]? = some '-'
  if cs.length = 36 && isHyphen 8 && isHyphen 13 && isHyphen 18 && isHyphen 23 then
    simple? (cs.filter (· ≠ '-'))
  else none

/-- The scheme of the form as a name. -/
def scheme : List Char := "urn:uuid:".toList

/-- Read an identifier. -/
def parse? (text : String) : Option Uuid :=
  let cs := text.toList
  if cs.length = 38 && cs.head? = some '\x7b' && cs.getLast? = some '\x7d' then
    hyphenated? (cs.drop 1).dropLast
  else if cs.length = 45 && (cs.take 9).map Char.toLower = scheme then hyphenated? (cs.drop 9)
  else (simple? cs).or (hyphenated? cs)

end Uuid

end Gatehouse
