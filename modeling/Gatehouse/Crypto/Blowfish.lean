import Gatehouse.Crypto.Sha256

/-!
# Blowfish with a costly key schedule

The block cipher Blowfish, and the key schedule that bcrypt makes of it. The subkeys are one array of
1042 words: 18 round keys, then four tables of 256 words. Before a key is mixed in, they are the binary
digits of the fraction of π.
-/

namespace Gatehouse.Crypto.Blowfish

/-! ### The digits of π -/

/-- The number of subkeys. -/
def subkeyCount : Nat := 1042

/-- Binary places with which π is computed; the last 64 absorb the rounding of the terms. -/
def places : Nat := subkeyCount * 32 + 64

/-- The terms of the arctangent of `1 / x` from `power / k` on, with alternating signs. -/
def arctanTerms (square : Nat) : (terms : Nat) → (power k : Nat) → Int
  | 0, _, _ => 0
  | terms + 1, power, k => (power / k : Nat) - arctanTerms square terms (power / square) (k + 2)

/-- The arctangent of `1 / x`, scaled. Each term is at least `x²` times smaller than the one before
it. -/
def arctanInverse (x : Nat) : Nat :=
  (arctanTerms (x * x) (places / (x * x).log2 + 2) ((1 <<< places) / x) 1).toNat

/-- π, scaled: four times the arctangent of one, by a formula for its double angles. -/
def scaledPi : Nat := 16 * arctanInverse 5 - 4 * arctanInverse 239

/-- The word of the fraction of π at an index. -/
def piWord (index : Nat) : UInt32 := (scaledPi >>> (places - 32 * (index + 1))).toUInt32

/-- The subkeys before a key is mixed in. -/
def initialSubkeys : Array UInt32 := ((List.range subkeyCount).map piWord).toArray

/-! ### The cipher -/

/-- The nonlinear function of a round, from the four tables. -/
def mix (keys : Array UInt32) (x : UInt32) : UInt32 :=
  let a := keys.getD (18 + (x >>> 24).toNat) 0
  let b := keys.getD (274 + ((x >>> 16) &&& 0xFF).toNat) 0
  let c := keys.getD (530 + ((x >>> 8) &&& 0xFF).toNat) 0
  let d := keys.getD (786 + (x &&& 0xFF).toNat) 0
  ((a + b) ^^^ c) + d

/-- Rounds from `index` on; the halves change places after each. -/
def rounds (keys : Array UInt32) : (count index : Nat) → UInt32 → UInt32 → UInt32 × UInt32
  | 0, _, l, r => (l, r)
  | count + 1, index, l, r =>
    let l := l ^^^ keys.getD index 0
    rounds keys count (index + 1) (r ^^^ mix keys l) l

/-- Encrypt a block of two words. -/
def encrypt (keys : Array UInt32) (l r : UInt32) : UInt32 × UInt32 :=
  let (l, r) := rounds keys 16 0 l r
  (r ^^^ keys.getD 17 0, l ^^^ keys.getD 16 0)

/-! ### The key schedule -/

/-- Four bytes of an endlessly repeated key, from an index on, as a word. -/
def cyclicWord (key : Array UInt8) (index : Nat) : UInt32 :=
  let byte (i : Nat) : UInt8 := key.getD ((index + i) % key.size) 0
  Sha256.word (byte 0) (byte 1) (byte 2) (byte 3)

/-- The first 18 words of an endlessly repeated key. -/
def keyWords (key : Array UInt8) : List UInt32 := (List.range 18).map fun i => cyclicWord key (4 * i)

/-- Mix words into the round keys. -/
def addKey (keys : Array UInt32) (index : Nat) : List UInt32 → Array UInt32
  | [] => keys
  | w :: ws => addKey (keys.setIfInBounds index (keys.getD index 0 ^^^ w)) (index + 1) ws

/-- Replace the subkeys pair by pair by running ciphertexts, into which a salt of four words is
mixed. -/
def replace (salt : UInt32 × UInt32 × UInt32 × UInt32) :
    (pairs index : Nat) → UInt32 → UInt32 → Array UInt32 → Array UInt32
  | 0, _, _, _, keys => keys
  | pairs + 1, index, l, r, keys =>
    let (a, b, c, d) := salt
    let (l, r) := encrypt keys (l ^^^ a) (r ^^^ b)
    let keys := (keys.setIfInBounds index l).setIfInBounds (index + 1) r
    replace (c, d, a, b) pairs (index + 2) l r keys

/-- The salt of no effect. -/
def noSalt : UInt32 × UInt32 × UInt32 × UInt32 := (0, 0, 0, 0)

/-- Mix a key and a salt into the subkeys. -/
def expand (salt : UInt32 × UInt32 × UInt32 × UInt32) (key : List UInt32) (keys : Array UInt32) :
    Array UInt32 :=
  replace salt (subkeyCount / 2) 0 0 0 (addKey keys 0 key)

/-- Mix in key and salt by turns, a number of times. -/
def expandTimes (key salt : List UInt32) : (times : Nat) → Array UInt32 → Array UInt32
  | 0, keys => keys
  | times + 1, keys => expandTimes key salt times (expand noSalt salt (expand noSalt key keys))

/-- The subkeys for a key and a salt of sixteen bytes, with two to the `cost` rounds of mixing. -/
def subkeys (cost : Nat) (salt key : Bytes) : Array UInt32 :=
  let key := keyWords key.toArray
  let saltBytes := salt.toArray
  let four := (cyclicWord saltBytes 0, cyclicWord saltBytes 4, cyclicWord saltBytes 8,
    cyclicWord saltBytes 12)
  expandTimes key (keyWords saltBytes) (1 <<< cost) (expand four key initialSubkeys)

/-- Encrypt a block several times. -/
def encryptTimes (keys : Array UInt32) : (times : Nat) → UInt32 → UInt32 → UInt32 × UInt32
  | 0, l, r => (l, r)
  | times + 1, l, r =>
    let (l, r) := encrypt keys l r
    encryptTimes keys times l r

end Gatehouse.Crypto.Blowfish
