import Gatehouse.Assoc
import Gatehouse.Auth.Seal
import Gatehouse.Instant.Basic

/-!
# Token records

Of each subject the store keeps at most one record: its sealed refresh token, the record's expiry, and a
**version** that counts the writes. Issuing overwrites the sealed token, extending writes the expiry
only if the record still has an expected version, and revoking deletes the record.
-/

namespace Gatehouse

/-- A sealed refresh token with its expiry. -/
structure TokenRecord where
  id : String
  subject : String
  token : Sealed
  expiresAt : Instant
  /-- The number of writes to the record, its making included. There is no bound on it here, where a signed
  word of 64 bits holds it up to `2⁶³ - 1` writes to one record. -/
  version : Int
  createdAt : Instant
  updatedAt : Instant
  deriving DecidableEq, Repr

/-- The records by subject. -/
structure RecordStore where
  entries : List (String × TokenRecord) := []
  deriving DecidableEq, Repr

namespace RecordStore

/-- The record of a subject. -/
def find (s : RecordStore) (subject : String) : Option TokenRecord := Assoc.get? subject s.entries

/-- How many records there are. -/
def size (s : RecordStore) : Nat := s.entries.length

/-- Put a record in the place of its subject. -/
def write (s : RecordStore) (subject : String) (r : TokenRecord) : RecordStore :=
  ⟨Assoc.put subject r s.entries⟩

/-- What a new sealed token makes of a subject's record: it is overwritten in place, or made with the
given id. -/
def upserted (previous : Option TokenRecord) (subject : String) (token : Sealed)
    (expiresAt now : Instant) (id : String) : TokenRecord :=
  match previous with
  | some r => { r with token, expiresAt, version := r.version + 1, updatedAt := now }
  | none => ⟨id, subject, token, expiresAt, 1, now, now⟩

/-- Write a new sealed token for a subject. -/
def upsert (s : RecordStore) (subject : String) (token : Sealed) (expiresAt now : Instant)
    (id : String) : TokenRecord × RecordStore :=
  let r := upserted (s.find subject) subject token expiresAt now id
  (r, s.write subject r)

/-- Write a new expiry if the record has the expected version. -/
def extend (s : RecordStore) (subject : String) (expected : Int) (expiresAt now : Instant) :
    Option TokenRecord × RecordStore :=
  match s.find subject with
  | some r =>
    if r.version = expected then
      let r := { r with expiresAt, version := r.version + 1, updatedAt := now }
      (some r, s.write subject r)
    else (none, s)
  | none => (none, s)

/-- Delete a subject's record, and say whether there was one. -/
def delete (s : RecordStore) (subject : String) : Bool × RecordStore :=
  ((s.find subject).isSome, ⟨Assoc.erase subject s.entries⟩)

end RecordStore

end Gatehouse
