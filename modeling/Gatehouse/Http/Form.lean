import Gatehouse.Text.Utf8

/-!
# Percent encoding and forms

In a percent-encoded text a byte may be written as a percent sign and two hexadecimal digits. A form is
a list of named values, each name and value percent-encoded with plus signs for blanks.
-/

namespace Gatehouse.Http

/-- The value of a byte that is a hexadecimal digit. -/
def hexValue? (b : UInt8) : Option UInt8 :=
  if 0x30 ≤ b && b ≤ 0x39 then some (b - 0x30)
  else if 0x41 ≤ b && b ≤ 0x46 then some (b - 0x41 + 10)
  else if 0x61 ≤ b && b ≤ 0x66 then some (b - 0x61 + 10)
  else none

/-- The percent sign. -/
def percentSign : UInt8 := 0x25

/-- Decode percent-encoded bytes. A percent sign without two digits stands for itself. -/
def percentDecode : List UInt8 → List UInt8
  | b :: high :: low :: rest =>
    if b = percentSign then
      match hexValue? high, hexValue? low with
      | some h, some l => (h * 16 + l) :: percentDecode rest
      | _, _ => b :: percentDecode (high :: low :: rest)
    else b :: percentDecode (high :: low :: rest)
  | bs => bs

/-- The text that a percent-encoded text stands for, if it is one. -/
def decodeSegment? (segment : String) : Option String :=
  (Utf8.decode (percentDecode (Utf8.encode segment))).toOption

namespace Form

/-- Decode a name or value of a form. Unreadable bytes become U+FFFD. -/
def decodePart (part : List UInt8) : String :=
  Utf8.lossy (percentDecode (part.map fun b => if b = 0x2B then 0x20 else b))

/-- The name and value of a piece of a form; without an equals sign the value is empty. -/
def decodePiece (piece : List UInt8) : String × String :=
  (decodePart (piece.takeWhile (· ≠ 0x3D)), decodePart ((piece.dropWhile (· ≠ 0x3D)).drop 1))

/-- The names and values of a form. -/
def parse (text : String) : List (String × String) :=
  (((Utf8.encode text).splitOn 0x26).filter fun piece => !piece.isEmpty).map decodePiece

end Form

end Gatehouse.Http
