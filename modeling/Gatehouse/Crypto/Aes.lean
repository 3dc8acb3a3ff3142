import Gatehouse.Crypto.Sha256

/-!
# AES-256

The block cipher AES with a key of 32 bytes. Only encryption is needed: counter mode uses it in both
directions. Bytes are polynomials over the field of two elements modulo `x⁸ + x⁴ + x³ + x + 1`, and
the substitution of a byte is its inverse in that field under an affine map.
-/

namespace Gatehouse.Crypto.Aes

/-- Multiplication by `x`. -/
def double (b : UInt8) : UInt8 := (b <<< 1) ^^^ (if b &&& 0x80 = 0 then 0 else 0x1B)

/-- Add up the multiples of `a` for the bits of `b`, lowest bit first. -/
def mulBits (a b : UInt8) : (bits : Nat) → UInt8
  | 0 => 0
  | bits + 1 => (if b &&& 1 = 0 then 0 else a) ^^^ mulBits (double a) (b >>> 1) bits

/-- Multiplication in the field. -/
def mul (a b : UInt8) : UInt8 := mulBits a b 8

/-- The power with exponent `2ⁿ⁺¹ - 2`. For seven it is the inverse, and zero for zero. -/
def power (a : UInt8) : (n : Nat) → UInt8
  | 0 => 1
  | n + 1 => mul (mul a (power a n)) (mul a (power a n))

/-- The inverse in the field. -/
def inverse (a : UInt8) : UInt8 := power a 7

/-- Rotate a byte left. -/
def rotate (b : UInt8) (n : UInt8) : UInt8 := (b <<< n) ||| (b >>> (8 - n))

/-- The substitution of a byte, computed. -/
def affineInverse (a : UInt8) : UInt8 :=
  let b := inverse a
  b ^^^ rotate b 1 ^^^ rotate b 2 ^^^ rotate b 3 ^^^ rotate b 4 ^^^ 0x63

/-- The substitutions of all bytes. -/
def substitutions : Array UInt8 := ((List.range 256).map fun n => affineInverse n.toUInt8).toArray

/-- The substitution of a byte. -/
def substitute (b : UInt8) : UInt8 := substitutions.getD b.toNat 0

/-- Add two sequences of bytes place by place. -/
def xorBytes (a b : Bytes) : Bytes := List.zipWith (· ^^^ ·) a b

/-! ### The key schedule -/

/-- The round constants. -/
def roundConstant (n : Nat) : UInt8 := (List.range n).foldl (fun b _ => double b) 1

/-- The next word of the key schedule; `index` is its number, `recent` holds the eight words before it,
latest first. -/
def nextWord (index : Nat) (recent : List Bytes) : Bytes :=
  let last := recent.headD []
  let mixed :=
    if index % 8 = 0 then
      match last with
      | a :: rest =>
        match (rest ++ [a]).map substitute with
        | b :: rest => (b ^^^ roundConstant (index / 8 - 1)) :: rest
        | [] => []
      | [] => []
    else if index % 8 = 4 then last.map substitute
    else last
  xorBytes (recent.getD 7 []) mixed

/-- Cut bytes into words of four. -/
def cutWords : Bytes → List Bytes
  | a :: b :: c :: d :: rest => [a, b, c, d] :: cutWords rest
  | _ => []

/-- The sixty words that a key of eight words grows into. -/
def expandKey (key : Bytes) : List Bytes :=
  ((List.range 52).foldl (fun ws n => nextWord (n + 8) ws :: ws) (cutWords key).reverse).reverse

/-- Group words into the keys of rounds. -/
def roundKeys : List Bytes → List Bytes
  | a :: b :: c :: d :: rest => (a ++ b ++ c ++ d) :: roundKeys rest
  | _ => []

/-! ### Rounds -/

/-- Move the rows of a state of sixteen bytes, written column by column. -/
def shiftRows (s : Bytes) : Bytes :=
  let t := s.toArray
  [0, 5, 10, 15, 4, 9, 14, 3, 8, 13, 2, 7, 12, 1, 6, 11].map fun i => t.getD i 0

/-- Mix the columns of a state. -/
def mixColumns : Bytes → Bytes
  | a :: b :: c :: d :: rest =>
    (double a ^^^ double b ^^^ b ^^^ c ^^^ d) :: (a ^^^ double b ^^^ double c ^^^ c ^^^ d) ::
      (a ^^^ b ^^^ double c ^^^ double d ^^^ d) :: (double a ^^^ a ^^^ b ^^^ c ^^^ double d) ::
      mixColumns rest
  | _ => []

/-- The rounds after the first addition of a key; the last does not mix columns. -/
def rounds (s : Bytes) : List Bytes → Bytes
  | [] => s
  | [k] => xorBytes (shiftRows (s.map substitute)) k
  | k :: ks => rounds (xorBytes (mixColumns (shiftRows (s.map substitute))) k) ks

/-- Encrypt one block of sixteen bytes under the keys of rounds. -/
def encryptBlock (keys : List Bytes) (block : Bytes) : Bytes :=
  match keys with
  | [] => block
  | k :: ks => rounds (xorBytes block k) ks

end Gatehouse.Crypto.Aes
