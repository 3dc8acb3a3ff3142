import Gatehouse.Crypto.Blowfish
import Gatehouse.Text.Base64
import Gatehouse.Text.Decimal

/-!
# Password hashes

The password hash bcrypt. A password is followed by a zero byte and cut to 72 bytes, so what lies
beyond does not count. A written hash has three parts after dollar signs: the version, the cost, and
53 symbols, of which 22 hold the salt and 31 the digest.
-/

namespace Gatehouse.Crypto.Bcrypt

/-- Why a password cannot be hashed or a written hash not be used. -/
inductive Fault where
  | badHash (hash : String)
  | badVersion (version : String)
  | badCost (text : String)
  | costOutOfRange (cost : Nat)
  | base64 (fault : Base64.Fault)
  deriving DecidableEq, Repr

/-- The wording of a fault. -/
def Fault.message : Fault → String
  | .badHash hash => "Invalid hash: " ++ hash
  | .badVersion version => "Invalid Prefix: " ++ version
  | .badCost text => "Invalid Cost: " ++ text
  | .costOutOfRange cost => s!"Cost needs to be between 4 and 31, got {cost}"
  | .base64 fault => "Base64 error: " ++ fault.message

/-- The base64 of hashes: an alphabet of its own, no filling. -/
def format : Base64.Format :=
  ⟨"./ABCDEFGHIJKLMNOPQRSTUVWXYZabcdefghijklmnopqrstuvwxyz0123456789".toList, false⟩

/-- How many bytes of a password count, with the zero byte after it. -/
def keySize : Nat := 72

/-- The key of a password. -/
def key (password : String) : Bytes := (Utf8.encode password ++ [0]).take keySize

/-- The text that is encrypted 64 times over. -/
def magic : List UInt32 := Sha256.words (Utf8.encode "OrpheanBeholderScryDoubt")

/-- Encrypt words pair by pair, each 64 times. -/
def encryptPairs (keys : Array UInt32) : List UInt32 → List UInt32
  | l :: r :: rest =>
    let (l, r) := Blowfish.encryptTimes keys 64 l r
    l :: r :: encryptPairs keys rest
  | _ => []

/-- The digest of a password: 23 bytes. -/
def digest (cost : Nat) (salt : Bytes) (password : String) : Bytes :=
  ((encryptPairs (Blowfish.subkeys cost salt (key password)) magic).flatMap Sha256.wordBytes).take 23

/-- The range of costs. -/
def costAllowed (cost : Nat) : Bool := 4 ≤ cost && cost ≤ 31

/-- Two digits. -/
def twoDigits (n : Nat) : String := if n < 10 then "0" ++ toString n else toString n

/-- Sixteen bytes that make the hashes of one password differ. -/
structure Salt where
  bytes : Bytes
  size : bytes.length = 16

/-- The salt that writes a number. -/
def Salt.ofNat (n : Nat) : Salt := ⟨Bytes.ofNat 16 n, Bytes.length_ofNat 16 n⟩

/-- Hash a password with a salt. -/
def hash (cost : Nat) (salt : Salt) (password : String) : Except Fault String :=
  if costAllowed cost then
    .ok ("$2b$" ++ twoDigits cost ++ "$" ++ Base64.encode format salt.bytes ++
      Base64.encode format (digest cost salt.bytes password))
  else .error (.costOutOfRange cost)

/-- The parts of a written hash. -/
structure Written where
  cost : Nat
  salt : String
  digest : String

/-- The versions that are read. -/
def versions : List String := ["2y", "2b", "2a", "2x"]

/-- A number below `2³²`; a plus sign may stand before it. -/
def cost? (text : String) : Option Nat := Text.unsigned? UInt32.size text.toList

/-- Cut a list of characters after a number of bytes, if a character ends there. -/
def splitBytes? : (count : Nat) → List Char → Option (List Char × List Char)
  | 0, cs => some ([], cs)
  | _ + 1, [] => none
  | count + 1, c :: cs =>
    if c.utf8Size ≤ count + 1 then
      (splitBytes? (count + 1 - c.utf8Size) cs).map fun p => (c :: p.1, p.2)
    else none
termination_by _ cs => cs.length

/-- What stands between the dollar signs of a written hash. Where nothing stands is no part. -/
def parts (hash : String) : List String :=
  ((hash.toList.splitOn '$').map String.ofList).filter (· ≠ "")

/-- Take a written hash apart. -/
def parse (hash : String) : Except Fault Written :=
  match parts hash with
  | [version, cost, rest] =>
    if !versions.contains version then .error (.badVersion version)
    else match cost? cost with
    | none => .error (.badCost cost)
    | some n =>
      if rest.utf8ByteSize ≠ 53 then .error (.badHash hash)
      else match splitBytes? 22 rest.toList with
      | some (salt, digest) => .ok ⟨n, String.ofList salt, String.ofList digest⟩
      | none => .error (.badHash hash)
  | _ => .error (.badHash hash)

/-- Read base64 as a part of a hash. -/
def readBase64 (text : String) : Except Fault Bytes :=
  (Base64.decodeText format text).mapError .base64

/-- Whether a password has a written hash. -/
def verify (password hash : String) : Except Fault Bool := do
  let w ← parse hash
  let salt ← readBase64 w.salt
  if !costAllowed w.cost then throw (.costOutOfRange w.cost)
  let expected ← readBase64 w.digest
  return digest w.cost salt password = expected

end Gatehouse.Crypto.Bcrypt
