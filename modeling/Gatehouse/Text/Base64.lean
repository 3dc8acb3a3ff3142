import Gatehouse.Text.Utf8

/-!
# Base64

Bytes as text over an alphabet of 64 symbols, four symbols for three bytes. A `Base64.Format` fixes
the alphabet, and whether the last group is filled up with `=`.

Reading is strict: the filling is as the format says, and the bits that the last symbol holds beyond
the last byte are zero. So every sequence of bytes has one written form. A text is refused for the
first fault in this order: the last byte of a text with one byte too many, the groups before the last
one, the last group, its length, its filling, and its spare bits.
-/

namespace Gatehouse.Base64

/-- How bytes are written. -/
structure Format where
  /-- The 64 symbols. -/
  symbols : List Char
  /-- The last group is filled up to four places. -/
  padded : Bool

/-- Capitals, small letters and digits: the common part of the two usual alphabets. -/
def alphanumeric : List Char :=
  "ABCDEFGHIJKLMNOPQRSTUVWXYZabcdefghijklmnopqrstuvwxyz0123456789".toList

/-- The usual format. -/
def standard : Format := ⟨alphanumeric ++ ['+', '/'], true⟩

/-- The format for addresses, without filling. -/
def urlSafe : Format := ⟨alphanumeric ++ ['-', '_'], false⟩

/-- The sign that fills a group. -/
def fillByte : UInt8 := 0x3D

namespace Format

/-- The symbol of a number below 64. -/
def symbol (f : Format) (n : Nat) : Char := f.symbols.getD n '='

/-- The number of a symbol, given as a byte. -/
def value? (f : Format) (b : UInt8) : Option Nat := f.symbols.findIdx? fun c => c.toNat = b.toNat

end Format

/-! ### Writing -/

/-- The signs that fill `n` places, if the format wants them. -/
def Format.fill (f : Format) (n : Nat) : List Char :=
  if f.padded then List.replicate n '=' else []

/-- The symbols of some bytes. -/
def encodeChars (f : Format) : List UInt8 → List Char
  | a :: b :: c :: rest =>
    let n := a.toNat * 0x10000 + b.toNat * 0x100 + c.toNat
    f.symbol (n / 0x40000) :: f.symbol (n / 0x1000 % 0x40) :: f.symbol (n / 0x40 % 0x40) ::
      f.symbol (n % 0x40) :: encodeChars f rest
  | [a, b] =>
    let n := a.toNat * 0x100 + b.toNat
    f.symbol (n / 0x400) :: f.symbol (n / 0x10 % 0x40) :: f.symbol (n % 0x10 * 4) :: f.fill 1
  | [a] => f.symbol (a.toNat / 4) :: f.symbol (a.toNat % 4 * 0x10) :: f.fill 2
  | [] => []

/-- The text of some bytes. -/
def encode (f : Format) (bytes : List UInt8) : String := String.ofList (encodeChars f bytes)

/-! ### Reading -/

/-- Why a text is refused. -/
inductive Fault where
  | symbol (byte : UInt8) (offset : Nat)
  | length (count : Nat)
  | lastSymbol (byte : UInt8) (offset : Nat)
  | padding
  deriving DecidableEq, Repr

/-- The wording of a fault. -/
def Fault.message : Fault → String
  | .symbol b n => s!"Invalid symbol {b.toNat}, offset {n}."
  | .length n => s!"Invalid input length: {n}"
  | .lastSymbol b n => s!"Invalid last symbol {b.toNat}, offset {n}."
  | .padding => "Invalid padding"

/-- The number of the symbol at an offset. -/
def Format.read (f : Format) (offset : Nat) (b : UInt8) : Except Fault Nat :=
  match f.value? b with
  | some n => .ok n
  | none => .error (.symbol b offset)

/-- The last group while it is read: its symbols with their numbers, latest first, and where the first
filling sign stands. -/
structure LastGroup where
  values : List (UInt8 × Nat) := []
  fillCount : Nat := 0
  firstFill : Nat := 0

/-- Read the last group, of at most four bytes, from its place `index` on. -/
def scanLast (f : Format) (offset : Nat) (g : LastGroup) (index : Nat) :
    List UInt8 → Except Fault LastGroup
  | [] => .ok g
  | b :: bs =>
    if b = fillByte then
      if index < 2 then .error (.symbol b (offset + index))
      else
        let first := if g.fillCount = 0 then index else g.firstFill
        scanLast f offset ⟨g.values, g.fillCount + 1, first⟩ (index + 1) bs
    else if 0 < g.fillCount then .error (.symbol fillByte (offset + g.firstFill))
    else
      match f.read (offset + index) b with
      | .ok n => scanLast f offset { g with values := (b, n) :: g.values } (index + 1) bs
      | .error e => .error e

/-- The bytes of the last group: of the bits of its symbols, the first whole bytes. The others must be
zero. -/
def finishLast (f : Format) (offset : Nat) (g : LastGroup) : Except Fault (List UInt8) :=
  match g.values with
  | [] => .error (.length offset)
  | [_] => .error (.length (offset + 1))
  | (last, _) :: _ =>
    let count := g.values.length
    if (if f.padded then (g.fillCount + count) % 4 ≠ 0 else 0 < g.fillCount) then .error .padding
    else
      let n := g.values.foldr (fun v n => n * 0x40 + v.2) 0
      match count with
      | 2 =>
        if n % 0x10 = 0 then .ok [(n / 0x10).toUInt8]
        else .error (.lastSymbol last (offset + 1))
      | 3 =>
        if n % 4 = 0 then .ok [(n / 0x400).toUInt8, (n / 4).toUInt8]
        else .error (.lastSymbol last (offset + 2))
      | _ => .ok [(n / 0x10000).toUInt8, (n / 0x100).toUInt8, n.toUInt8]

/-- Read the last group. -/
def decodeLast (f : Format) (offset : Nat) (bytes : List UInt8) : Except Fault (List UInt8) :=
  (scanLast f offset {} 0 bytes).bind (finishLast f offset)

/-- Read groups from an offset on. A group that others follow has four symbols. -/
def decodeFrom (f : Format) (offset : Nat) : List UInt8 → Except Fault (List UInt8)
  | [] => .ok []
  | a :: b :: c :: d :: e :: rest =>
    match f.read offset a, f.read (offset + 1) b, f.read (offset + 2) c, f.read (offset + 3) d with
    | .ok a, .ok b, .ok c, .ok d =>
      let n := a * 0x40000 + b * 0x1000 + c * 0x40 + d
      match decodeFrom f (offset + 4) (e :: rest) with
      | .ok bytes => .ok ((n / 0x10000).toUInt8 :: (n / 0x100).toUInt8 :: n.toUInt8 :: bytes)
      | .error e => .error e
    | .error e, _, _, _ => .error e
    | _, .error e, _, _ => .error e
    | _, _, .error e, _ => .error e
    | _, _, _, .error e => .error e
  | last => decodeLast f offset last

/-- Read a text, given as bytes. -/
def decode (f : Format) (bytes : List UInt8) : Except Fault (List UInt8) :=
  match bytes.getLast? with
  | some b =>
    if bytes.length % 4 = 1 && b ≠ fillByte && (f.value? b).isNone then
      .error (.symbol b (bytes.length - 1))
    else decodeFrom f 0 bytes
  | none => .ok []

/-- Read a text. -/
def decodeText (f : Format) (text : String) : Except Fault (List UInt8) := decode f (Utf8.encode text)

end Gatehouse.Base64
