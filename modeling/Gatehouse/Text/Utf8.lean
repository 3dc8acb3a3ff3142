/-!
# UTF-8

Text as bytes and back. `Utf8.encode` writes a text as bytes. Reading goes through `Utf8.pieces`,
which cuts any byte sequence into characters and **maximal unreadable runs**: a run ends just
before the first byte that cannot continue the character it began. Every reading of bytes in the
library is a view of these pieces:

* `Utf8.decode` accepts readable sequences only, and otherwise says where the first fault is;
* `Utf8.lossy` puts U+FFFD in the place of each unreadable run;
* `Utf8.symbols` keeps each unreadable run as a hole.
-/

namespace Gatehouse.Utf8

/-! ### Writing -/

/-- The one to four bytes of a character. -/
def encodeChar (c : Char) : List UInt8 :=
  let n := c.toNat
  if n < 0x80 then [n.toUInt8]
  else if n < 0x800 then [(0xC0 + n / 0x40).toUInt8, (0x80 + n % 0x40).toUInt8]
  else if n < 0x10000 then
    [(0xE0 + n / 0x1000).toUInt8, (0x80 + n / 0x40 % 0x40).toUInt8, (0x80 + n % 0x40).toUInt8]
  else
    [(0xF0 + n / 0x40000).toUInt8, (0x80 + n / 0x1000 % 0x40).toUInt8,
      (0x80 + n / 0x40 % 0x40).toUInt8, (0x80 + n % 0x40).toUInt8]

/-- The bytes of a list of characters. -/
def encodeChars (cs : List Char) : List UInt8 := cs.flatMap encodeChar

/-- The bytes of a text. -/
def encode (s : String) : List UInt8 := encodeChars s.toList

@[simp] theorem encodeChars_nil : encodeChars [] = [] := rfl

@[simp] theorem encodeChars_cons (c : Char) (cs : List Char) :
    encodeChars (c :: cs) = encodeChar c ++ encodeChars cs := rfl

/-! ### Reading -/

/-- One step of reading: a character, or a run of bytes that is none. -/
inductive Piece where
  | char (c : Char)
  /-- An unreadable run of `width` bytes, followed by a byte that does not belong to it. -/
  | invalid (width : Nat)
  /-- The sequence ends inside a character. -/
  | truncated
  deriving DecidableEq, Repr

/-- A character of which only the first bytes have been read. -/
structure Partial where
  /-- The bits read so far. -/
  value : Nat
  /-- The number of bytes read so far. -/
  width : Nat
  /-- The number of bytes still to come. -/
  missing : Nat
  /-- The least byte that may follow. -/
  low : UInt8
  /-- The greatest byte that may follow. -/
  high : UInt8
  deriving DecidableEq, Repr

/-- What a byte that stands at the start of a character can be. -/
inductive Lead where
  | whole (c : Char)
  | opens (p : Partial)
  | stray
  deriving DecidableEq, Repr

/-- The role of a first byte. The second byte's range excludes overlong forms, surrogates and
values past U+10FFFF. -/
def lead (b : UInt8) : Lead :=
  let n := b.toNat
  if n < 0x80 then .whole (Char.ofNat n)
  else if n < 0xC2 then .stray
  else if n < 0xE0 then .opens ⟨n - 0xC0, 1, 1, 0x80, 0xBF⟩
  else if n = 0xE0 then .opens ⟨0, 1, 2, 0xA0, 0xBF⟩
  else if n = 0xED then .opens ⟨0xD, 1, 2, 0x80, 0x9F⟩
  else if n < 0xF0 then .opens ⟨n - 0xE0, 1, 2, 0x80, 0xBF⟩
  else if n = 0xF0 then .opens ⟨0, 1, 3, 0x90, 0xBF⟩
  else if n < 0xF4 then .opens ⟨n - 0xF0, 1, 3, 0x80, 0xBF⟩
  else if n = 0xF4 then .opens ⟨4, 1, 3, 0x80, 0x8F⟩
  else .stray

/-- Whether a byte can continue a partly read character. -/
def Partial.accepts (p : Partial) (b : UInt8) : Bool := p.low ≤ b && b ≤ p.high

/-- The value after one more byte. -/
def Partial.extend (p : Partial) (b : UInt8) : Nat := p.value * 0x40 + (b.toNat - 0x80)

/-- Read on from a partly read character, or from a boundary. -/
def piecesFrom : Option Partial → List UInt8 → List Piece
  | none, [] => []
  | some _, [] => [.truncated]
  | none, b :: bs =>
    match lead b with
    | .whole c => .char c :: piecesFrom none bs
    | .opens p => piecesFrom (some p) bs
    | .stray => .invalid 1 :: piecesFrom none bs
  | some p, b :: bs =>
    if p.accepts b then
      if p.missing ≤ 1 then .char (Char.ofNat (p.extend b)) :: piecesFrom none bs
      else piecesFrom (some ⟨p.extend b, p.width + 1, p.missing - 1, 0x80, 0xBF⟩) bs
    else
      .invalid p.width ::
        match lead b with
        | .whole c => .char c :: piecesFrom none bs
        | .opens p => piecesFrom (some p) bs
        | .stray => .invalid 1 :: piecesFrom none bs

/-- The characters and unreadable runs of a byte sequence. -/
def pieces (bs : List UInt8) : List Piece := piecesFrom none bs

/-- The first unreadable place: the bytes before it, and the width of the run, or `none` when the
sequence ends inside a character. -/
structure Fault where
  offset : Nat
  width : Option Nat
  deriving DecidableEq, Repr

/-- Read the characters of a fully readable list of pieces that starts at byte `offset`. -/
def readable (offset : Nat) : List Piece → Except Fault (List Char)
  | [] => .ok []
  | .char c :: ps =>
    match readable (offset + c.utf8Size) ps with
    | .ok cs => .ok (c :: cs)
    | .error f => .error f
  | .invalid w :: _ => .error ⟨offset, some w⟩
  | .truncated :: _ => .error ⟨offset, none⟩

/-- Read bytes as text, or say where they stop being text. -/
def decode (bs : List UInt8) : Except Fault String :=
  (readable 0 (pieces bs)).map String.ofList

/-- Read bytes as text, with U+FFFD for each unreadable run. -/
def lossy (bs : List UInt8) : String :=
  String.ofList <| (pieces bs).map fun
    | .char c => c
    | _ => '\uFFFD'

/-- Read bytes as characters, with a hole for each unreadable run. -/
def symbols (bs : List UInt8) : List (Option Char) :=
  (pieces bs).map fun
    | .char c => some c
    | _ => none

/-- How a fault is reported. -/
def Fault.message (f : Fault) : String :=
  match f.width with
  | some w => s!"invalid utf-8 sequence of {w} bytes from index {f.offset}"
  | none => s!"incomplete utf-8 byte sequence from index {f.offset}"

end Gatehouse.Utf8
