import Gatehouse.Crypto.Aes

/-!
# AES-256-GCM

Authenticated encryption: a text is added to a stream of key bytes that AES makes from a counter, and a
tag of sixteen bytes over the result is appended. Opening checks the tag first. The nonce has twelve
bytes, and there is no further data under the tag.
-/

namespace Gatehouse.Crypto.Gcm

/-! ### The tag -/

/-- Add up the multiples of `v` for the top `bits` bits of `x`. The field is that of polynomials with
the highest bit as the constant term, modulo `1 + x + x² + x⁷ + x¹²⁸`. -/
def mulBits (x v : Nat) : (bits : Nat) → Nat
  | 0 => 0
  | bits + 1 =>
    let next := if v % 2 = 0 then v / 2 else (v / 2) ^^^ (0xE1 <<< 120)
    (if (x >>> bits) % 2 = 0 then 0 else v) ^^^ mulBits x next bits

/-- Multiplication in the field of 128 bits. -/
def mul (x y : Nat) : Nat := mulBits x y 128

/-- Fold blocks of sixteen bytes; the last may be shorter. `blocks` bounds their number. -/
def foldBlocks (h acc : Nat) : (blocks : Nat) → Bytes → Nat
  | 0, _ => acc
  | blocks + 1, bytes =>
    if bytes.isEmpty then acc
    else
      let block := bytes.take 16
      let filled := block ++ List.replicate (16 - block.length) 0
      foldBlocks h (mul (acc ^^^ Bytes.toNat filled) h) blocks (bytes.drop 16)

/-! ### The cipher -/

/-- The size of a tag. -/
def tagSize : Nat := 16

/-- The size of a nonce. -/
def nonceSize : Nat := 12

/-- The counter block of a nonce. -/
def counterBlock (nonce : Bytes) (counter : Nat) : Bytes := nonce ++ Bytes.ofNat 4 counter

/-- Add the key stream to a text, block by block. `blocks` bounds their number. -/
def stream (keys : List Bytes) (nonce : Bytes) (counter : Nat) : (blocks : Nat) → Bytes → Bytes
  | 0, _ => []
  | blocks + 1, bytes =>
    if bytes.isEmpty then []
    else
      Aes.xorBytes (bytes.take 16) (Aes.encryptBlock keys (counterBlock nonce counter)) ++
        stream keys nonce (counter + 1) blocks (bytes.drop 16)

/-- Encrypt or decrypt: the stream starts at counter two. -/
def applyStream (keys : List Bytes) (nonce bytes : Bytes) : Bytes :=
  stream keys nonce 2 bytes.length bytes

/-- The tag over an encrypted text. -/
def tag (keys : List Bytes) (nonce encrypted : Bytes) : Bytes :=
  let h := Bytes.toNat (Aes.encryptBlock keys (List.replicate 16 0))
  let folded := foldBlocks h 0 encrypted.length encrypted
  let sum := mul (folded ^^^ (encrypted.length * 8)) h
  Aes.xorBytes (Bytes.ofNat 16 sum) (Aes.encryptBlock keys (counterBlock nonce 1))

/-- Encrypt a text under a key of 32 bytes and append the tag. -/
def encrypt (key nonce plain : Bytes) : Bytes :=
  let keys := Aes.roundKeys (Aes.expandKey key)
  let encrypted := applyStream keys nonce plain
  encrypted ++ tag keys nonce encrypted

/-- Check the tag and decrypt. -/
def decrypt? (key nonce sealed : Bytes) : Option Bytes :=
  let keys := Aes.roundKeys (Aes.expandKey key)
  let size := sealed.length - tagSize
  let encrypted := sealed.take size
  if tagSize ≤ sealed.length && sealed.drop size = tag keys nonce encrypted then
    some (applyStream keys nonce encrypted)
  else none

end Gatehouse.Crypto.Gcm
