import Gatehouse.Proofs.Crypto.Gcm

/-!
# Keys of an HMAC

An HMAC is the hash of a message that begins with the key, filled up to a block (`Crypto.hmacInput`). So two keys
that fill up to the same block are one and the same key; and if two others ever agree on an HMAC, they have found
two messages with one hash (`Crypto.collision_of_hmacSha256_eq`).
-/

namespace Gatehouse.Crypto

/-- Two messages with one hash. -/
def Collision (a b : Bytes) : Prop := a ≠ b ∧ sha256 a = sha256 b

/-- The message whose hash is an HMAC. -/
def hmacInput (key message : Bytes) : Bytes :=
  (hmacKey key).map (· ^^^ 0x5C) ++ sha256 ((hmacKey key).map (· ^^^ 0x36) ++ message)

variable {key key' message message' : Bytes}

theorem hmacSha256_eq (key message : Bytes) : hmacSha256 key message = sha256 (hmacInput key message) := rfl

/-- A key of at most a block is filled up with zero bytes. -/
theorem hmacKey_of_length_le (h : key.length ≤ 64) : hmacKey key = key ++ List.replicate (64 - key.length) 0 := by
  rw [hmacKey, if_pos h]

/-- A longer key is its hash. -/
theorem hmacKey_of_lt_length (h : 64 < key.length) : hmacKey key = hmacKey (sha256 key) := by
  have hhash : (sha256 key).length ≤ 64 := by
    rw [length_sha256]
    decide
  rw [hmacKey_of_length_le hhash, hmacKey, if_neg (Nat.not_le.mpr h)]

theorem length_hmacKey (key : Bytes) : (hmacKey key).length = 64 := by
  have hfilled {key : Bytes} (h : key.length ≤ 64) : (hmacKey key).length = 64 := by
    rw [hmacKey_of_length_le h, List.length_append, List.length_replicate]
    omega
  rcases Nat.lt_or_ge 64 key.length with hlong | hshort
  · rw [hmacKey_of_lt_length hlong]
    exact hfilled (by rw [length_sha256]; decide)
  · exact hfilled hshort

/-- A key of a whole block is used as it is. -/
theorem hmacKey_of_length_eq (h : key.length = 64) : hmacKey key = key := by
  rw [hmacKey_of_length_le (Nat.le_of_eq h), h, Nat.sub_self, List.replicate_zero, List.append_nil]

/-- Keys of at most a block are one and the same exactly if one is the other with zero bytes at its end. -/
theorem hmacKey_eq_iff (h : key.length ≤ 64) (h' : key'.length ≤ 64) :
    hmacKey key = hmacKey key' ↔
      ∃ n, key' = key ++ List.replicate n 0 ∨ key = key' ++ List.replicate n 0 := by
  have hlonger {key key' : Bytes} {n : Nat} (h' : key'.length ≤ 64) (hkeys : key' = key ++ List.replicate n 0) :
      hmacKey key = hmacKey key' := by
    have hlength : key'.length = key.length + n := by rw [hkeys, List.length_append, List.length_replicate]
    have hfill : n + (64 - key'.length) = 64 - key.length := by omega
    have hshort : key.length ≤ 64 := by omega
    rw [hmacKey_of_length_le h', hmacKey_of_length_le hshort]
    rw [hkeys] at hfill ⊢
    rw [List.append_assoc, List.replicate_append_replicate, hfill]
  constructor
  · intro hblocks
    rw [hmacKey_of_length_le h, hmacKey_of_length_le h'] at hblocks
    rcases List.append_eq_append_iff.mp hblocks with ⟨zeros, hkey', hfill⟩ | ⟨zeros, hkey, hfill⟩
    · obtain ⟨-, hzeros, -⟩ := List.replicate_eq_append_iff.mp hfill
      exact ⟨zeros.length, .inl (hkey'.trans (congrArg _ hzeros))⟩
    · obtain ⟨-, hzeros, -⟩ := List.replicate_eq_append_iff.mp hfill
      exact ⟨zeros.length, .inr (hkey.trans (congrArg _ hzeros))⟩
  · rintro ⟨n, hkeys | hkeys⟩
    · exact hlonger h' hkeys
    · exact (hlonger h hkeys).symm

/-- Under one and the same key every message has one HMAC. -/
theorem hmacSha256_congr (h : hmacKey key = hmacKey key') (message : Bytes) :
    hmacSha256 key message = hmacSha256 key' message := by
  rw [hmacSha256, hmacSha256, h]

/-- The key can be told from the message whose hash is an HMAC. -/
theorem hmacKey_eq_of_hmacInput_eq (h : hmacInput key message = hmacInput key' message') :
    hmacKey key = hmacKey key' := by
  have hlength : ((hmacKey key).map (· ^^^ 0x5C)).length = ((hmacKey key').map (· ^^^ 0x5C)).length := by
    rw [List.length_map, List.length_map, length_hmacKey, length_hmacKey]
  have hmask (a b : UInt8) (hab : a ^^^ 0x5C = b ^^^ 0x5C) : a = b := by
    have htwice := congrArg (· ^^^ (0x5C : UInt8)) hab
    simpa [UInt8.xor_assoc] using htwice
  exact (List.map_inj_right hmask).mp (List.append_inj_left h hlength)

/-- **Two keys that agree on an HMAC collide**, unless they are one and the same. -/
theorem collision_of_hmacSha256_eq (hkeys : hmacKey key ≠ hmacKey key')
    (h : hmacSha256 key message = hmacSha256 key' message') :
    Collision (hmacInput key message) (hmacInput key' message') := by
  rw [hmacSha256_eq, hmacSha256_eq] at h
  exact ⟨fun hinput => hkeys (hmacKey_eq_of_hmacInput_eq hinput), h⟩

end Gatehouse.Crypto
