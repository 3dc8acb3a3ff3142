import Gatehouse.Auth.Record
import Gatehouse.Proofs.Assoc

/-!
# What the operations on records change

Each operation on the record store changes the record of one subject and of no other. The look-ups
after an operation are stated for an arbitrary subject, so that the change and the frame are one
statement (`find_upsert`, `find_write`, `find_delete`).
-/

namespace Gatehouse

namespace RecordStore

/-- In an empty store nothing is found. -/
@[simp] theorem find_empty (subject : String) : find {} subject = none := rfl

/-- What is found after a record was written. -/
theorem find_write (s : RecordStore) (subject : String) (r : TokenRecord) (k : String) :
    (s.write subject r).find k = if k = subject then some r else s.find k :=
  Assoc.get?_put subject r s.entries k

/-- What is found after a new sealed token was written. -/
theorem find_upsert (s : RecordStore) (subject : String) (token : Sealed) (expiresAt now : Instant)
    (id k : String) :
    (s.upsert subject token expiresAt now id).2.find k =
      if k = subject then some (upserted (s.find subject) subject token expiresAt now id)
      else s.find k :=
  s.find_write subject _ k

/-- What is found after a record was deleted. -/
theorem find_delete (s : RecordStore) (subject k : String) :
    (s.delete subject).2.find k = if k = subject then none else s.find k :=
  Assoc.get?_erase subject s.entries k

/-! ### The record that a write leaves -/

section Upserted

variable (previous : Option TokenRecord) (subject : String) (token : Sealed)
  (expiresAt now : Instant) (id : String)

/-- The sealed token is the new one, whether or not there was a record. -/
@[simp] theorem upserted_token :
    (upserted previous subject token expiresAt now id).token = token := by
  cases previous <;> rfl

/-- The expiry is the new one, whether or not there was a record. -/
@[simp] theorem upserted_expiresAt :
    (upserted previous subject token expiresAt now id).expiresAt = expiresAt := by
  cases previous <;> rfl

/-- A record that is overwritten stays its subject's. -/
theorem upserted_subject (h : ∀ r, previous = some r → r.subject = subject) :
    (upserted previous subject token expiresAt now id).subject = subject := by
  cases previous with
  | none => rfl
  | some r => exact h r rfl

end Upserted

/-- The record with a new expiry. -/
def extended (r : TokenRecord) (expiresAt now : Instant) : TokenRecord :=
  { r with expiresAt, version := r.version + 1, updatedAt := now }

/-- **A new expiry is written exactly if a record is there and has the expected version**; otherwise the
store stays as it is. -/
theorem extend_eq (s : RecordStore) (subject : String) (expected : Int) (expiresAt now : Instant) :
    s.extend subject expected expiresAt now =
      match s.find subject with
      | some r =>
        if r.version = expected then
          (some (extended r expiresAt now), s.write subject (extended r expiresAt now))
        else (none, s)
      | none => (none, s) := rfl

/-- An expiry that was written was written to a record of the expected version. -/
theorem of_extend_eq_some {s s' : RecordStore} {subject : String} {expected : Int}
    {expiresAt now : Instant} {r : TokenRecord}
    (h : s.extend subject expected expiresAt now = (some r, s')) :
    ∃ r₀, s.find subject = some r₀ ∧ r₀.version = expected ∧ r = extended r₀ expiresAt now ∧
      s' = s.write subject r := by
  rw [extend_eq] at h
  split at h
  next r₀ hfind =>
    split at h
    next hversion =>
      obtain ⟨hr, rfl⟩ := Prod.mk.inj h
      obtain rfl := Option.some.inj hr
      exact ⟨r₀, hfind, hversion, rfl, rfl⟩
    next => exact absurd (Prod.mk.inj h).1 (by simp)
  next => exact absurd (Prod.mk.inj h).1 (by simp)

/-- An expiry that was not written left the store as it was. -/
theorem of_extend_eq_none {s s' : RecordStore} {subject : String} {expected : Int}
    {expiresAt now : Instant} (h : s.extend subject expected expiresAt now = (none, s')) :
    s' = s := by
  rw [extend_eq] at h
  split at h
  next => split at h <;> simp_all
  next => exact (Prod.mk.inj h).2.symm

end RecordStore

end Gatehouse
