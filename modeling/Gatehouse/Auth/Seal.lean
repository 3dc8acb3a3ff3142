import Gatehouse.Crypto.Gcm
import Gatehouse.Text.Base64

/-!
# Sealed texts

A text is sealed under a passphrase for storage: encrypted and authenticated with the hash of the
passphrase as key and a fresh nonce of twelve bytes. Ciphertext and nonce are kept as base64. Opening
checks, in this order, the nonce's base64 and size, the ciphertext's base64 and size, the tag, and that
the opened bytes are a text.
-/

namespace Gatehouse

/-- Twelve bytes. -/
structure Nonce where
  bytes : Crypto.Bytes
  size : bytes.length = Crypto.Gcm.nonceSize

/-- The nonce that writes a number. -/
def Nonce.ofNat (n : Nat) : Nonce :=
  ⟨Crypto.Bytes.ofNat Crypto.Gcm.nonceSize n, Crypto.Bytes.length_ofNat _ n⟩

/-- A sealed text as it is kept. -/
structure Sealed where
  ciphertext : String
  iv : String
  deriving DecidableEq, Repr

namespace Sealed

/-- Why a sealed text does not open. -/
inductive Fault where
  | ivBase64 (fault : Base64.Fault)
  | ivSize (size : Nat)
  | ciphertextBase64 (fault : Base64.Fault)
  | tooShort
  | badTag
  | notText (fault : Utf8.Fault)
  deriving DecidableEq, Repr

/-- The wording of a fault. -/
def Fault.message : Fault → String
  | .ivBase64 fault => "iv base64 decode failed: " ++ fault.message
  | .ivSize size => s!"iv must be 12 bytes, got {size}"
  | .ciphertextBase64 fault => "ciphertext base64 decode failed: " ++ fault.message
  | .tooShort => "ciphertext too short"
  | .badTag => "decryption failed: aead::Error"
  | .notText fault => "UTF-8 decode failed: " ++ fault.message

/-- The key of a passphrase. -/
def keyOf (passphrase : String) : Crypto.Bytes := Crypto.sha256 (Utf8.encode passphrase)

/-- Seal a text. -/
def ofText (passphrase : String) (nonce : Nonce) (text : String) : Sealed :=
  ⟨Base64.encode Base64.standard (Crypto.Gcm.encrypt (keyOf passphrase) nonce.bytes (Utf8.encode text)),
    Base64.encode Base64.standard nonce.bytes⟩

/-- Open a sealed text. -/
def reveal (passphrase : String) (s : Sealed) : Except Fault String :=
  match Base64.decodeText Base64.standard s.iv with
  | .error e => .error (.ivBase64 e)
  | .ok nonce =>
    if nonce.length ≠ Crypto.Gcm.nonceSize then .error (.ivSize nonce.length)
    else match Base64.decodeText Base64.standard s.ciphertext with
    | .error e => .error (.ciphertextBase64 e)
    | .ok bytes =>
      if bytes.length < Crypto.Gcm.tagSize then .error .tooShort
      else match Crypto.Gcm.decrypt? (keyOf passphrase) nonce bytes with
      | none => .error .badTag
      | some plain =>
        match Utf8.decode plain with
        | .ok text => .ok text
        | .error e => .error (.notText e)

end Sealed

end Gatehouse
