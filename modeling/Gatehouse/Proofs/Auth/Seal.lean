import Gatehouse.Auth.Failure
import Gatehouse.Proofs.Crypto.Gcm
import Gatehouse.Proofs.Text.Base64Canonical

/-!
# Sealed texts open, and nothing else does

A text that was sealed under a passphrase opens to itself under that passphrase, whatever the nonce:
each layer of sealing (UTF-8, encryption, base64) is undone by the layer of opening that matches it. What is
kept has the length of the text and of a tag, so the tag is cut off where it begins (`Sealed.opens_to_its_text`).

Each layer reads one form only, so whatever opens is what its text is sealed as, and everything else fails to
decrypt (`Sealed.opens_only_what_was_sealed`). That it fails, and does not break off, takes the checks of sizes:
they keep from the cipher the nonces and tags that it cannot take (`Sealed.attempt_eq`).
-/

namespace Gatehouse.Sealed

/-- The key of a passphrase has 32 bytes. -/
theorem length_keyOf (passphrase : String) : (keyOf passphrase).length = 32 := Crypto.length_sha256 _

/-- Sealing appends a tag, so a sealed text is never too short. -/
theorem tagSize_le_length_encrypt (passphrase : String) (nonce : Nonce) (plain : Crypto.Bytes) :
    Crypto.Gcm.tagSize ≤ (Crypto.Gcm.encrypt (keyOf passphrase) nonce.bytes plain).length := by
  obtain ⟨body, tag, hencrypt, -, htag⟩ :=
    Crypto.Gcm.exists_encrypt_eq nonce.size (length_keyOf passphrase) plain
  rw [hencrypt, List.length_append, htag]
  exact Nat.le_add_left _ _

/-- **What was sealed opens to itself.** -/
theorem reveal_ofText (passphrase : String) (nonce : Nonce) (text : String) :
    reveal passphrase (ofText passphrase nonce text) = .ok text := by
  have hiv := Base64.decodeText_encode Base64.standard_legible nonce.bytes
  have hciphertext := Base64.decodeText_encode Base64.standard_legible
    (Crypto.Gcm.encrypt (keyOf passphrase) nonce.bytes (Utf8.encode text))
  have hopen := Crypto.Gcm.decrypt?_encrypt nonce.size (length_keyOf passphrase) (Utf8.encode text)
  have hsize := tagSize_le_length_encrypt passphrase nonce (Utf8.encode text)
  rw [reveal, ofText]
  simp only [hiv, hciphertext, nonce.size, ne_eq, not_true_eq_false, if_false,
    Nat.not_lt.mpr hsize, hopen, Utf8.decode_encode]

/-- **Every text, sealed under any passphrase and with any nonce, opens to itself**: what is kept is the nonce,
and as many bytes as the text has, with a tag after them. -/
theorem opens_to_its_text (passphrase : String) (nonce : Nonce) (text : String) :
    reveal passphrase (ofText passphrase nonce text) = .ok text ∧
      Base64.decodeText Base64.standard (ofText passphrase nonce text).iv = .ok nonce.bytes ∧
      ∃ body tag, Base64.decodeText Base64.standard (ofText passphrase nonce text).ciphertext =
          .ok (body ++ tag) ∧
        body.length = (Utf8.encode text).length ∧ tag.length = Crypto.Gcm.tagSize := by
  obtain ⟨body, tag, hencrypt, hbody, htag⟩ :=
    Crypto.Gcm.exists_encrypt_eq nonce.size (length_keyOf passphrase) (Utf8.encode text)
  refine ⟨reveal_ofText passphrase nonce text, Base64.decodeText_encode Base64.standard_legible nonce.bytes,
    body, tag, ?_, hbody, htag⟩
  rw [ofText, hencrypt]
  exact Base64.decodeText_encode Base64.standard_legible (body ++ tag)

/-! ### Nothing else opens -/

/-- The cipher with the sizes that it takes: a key of 32 bytes, a nonce of twelve, and no less than a tag. With
others there is no answer at all, not even a failure. -/
def cipher? (key nonce bytes : Crypto.Bytes) : Option (Option Crypto.Bytes) :=
  if key.length = 32 ∧ nonce.length = Crypto.Gcm.nonceSize ∧ Crypto.Gcm.tagSize ≤ bytes.length then
    some (Crypto.Gcm.decrypt? key nonce bytes)
  else none

/-- Open a sealed text with that cipher. -/
def attempt (passphrase : String) (s : Sealed) : Option (Except AuthError String) :=
  match Base64.decodeText Base64.standard s.iv with
  | .error e => some (.error (.encryption (.ivBase64 e)))
  | .ok nonce =>
    if nonce.length ≠ Crypto.Gcm.nonceSize then some (.error (.encryption (.ivSize nonce.length)))
    else match Base64.decodeText Base64.standard s.ciphertext with
    | .error e => some (.error (.encryption (.ciphertextBase64 e)))
    | .ok bytes =>
      if bytes.length < Crypto.Gcm.tagSize then some (.error (.encryption .tooShort))
      else (cipher? (keyOf passphrase) nonce bytes).map fun opened =>
        match opened with
        | none => .error (.encryption .badTag)
        | some plain => (Utf8.decode plain).mapError fun e => .encryption (.notText e)

/-- The checks before it leave the cipher only sizes that it takes. -/
theorem attempt_eq (passphrase : String) (s : Sealed) :
    attempt passphrase s = some ((reveal passphrase s).mapError .encryption) := by
  rw [attempt, reveal]
  cases Base64.decodeText Base64.standard s.iv with
  | error e => rfl
  | ok nonce =>
    dsimp only
    by_cases hnonce : nonce.length = Crypto.Gcm.nonceSize
    · rw [if_neg (not_not_intro hnonce), if_neg (not_not_intro hnonce)]
      cases Base64.decodeText Base64.standard s.ciphertext with
      | error e => rfl
      | ok bytes =>
        dsimp only
        by_cases hbytes : bytes.length < Crypto.Gcm.tagSize
        · rw [if_pos hbytes, if_pos hbytes]
          rfl
        · have hsizes := And.intro (length_keyOf passphrase) (And.intro hnonce (Nat.le_of_not_lt hbytes))
          rw [if_neg hbytes, if_neg hbytes, cipher?, if_pos hsizes]
          cases Crypto.Gcm.decrypt? (keyOf passphrase) nonce bytes with
          | none => rfl
          | some plain =>
            dsimp only [Option.map_some]
            cases Utf8.decode plain <;> rfl
    · rw [if_pos hnonce, if_pos hnonce]
      rfl

/-- What opens was sealed: each check that is passed fixes one part of it. -/
theorem eq_ofText_of_reveal {passphrase text : String} {s : Sealed} (h : reveal passphrase s = .ok text) :
    ∃ nonce : Nonce, s = ofText passphrase nonce text := by
  obtain ⟨ciphertext, iv⟩ := s
  rw [reveal] at h
  dsimp only at h
  split at h
  · exact absurd h nofun
  next nonce hiv =>
  obtain ⟨hnonce, h⟩ := ite_error_eq_ok_iff.mp h
  split at h
  · exact absurd h nofun
  next bytes hciphertext =>
  obtain ⟨-, h⟩ := ite_error_eq_ok_iff.mp h
  split at h
  · exact absurd h nofun
  next plain hopen =>
  split at h
  next text' htext =>
    obtain rfl := Except.ok.inj h
    have hnonce := not_not.mp hnonce
    obtain rfl := (Base64.decodeText_eq_ok_iff Base64.standard_exact).mp hiv
    obtain rfl := (Base64.decodeText_eq_ok_iff Base64.standard_exact).mp hciphertext
    obtain rfl := (Crypto.Gcm.decrypt?_eq_some_iff hnonce (length_keyOf passphrase)).mp hopen
    obtain rfl := Utf8.decode_eq_ok_iff.mp htext
    exact ⟨⟨nonce, hnonce⟩, rfl⟩
  · exact absurd h nofun

/-- **Nothing opens but what was sealed.** Whatever texts are kept, opening them comes to an end: with a failure
to decrypt, or with a text; and with a text exactly if what is kept is what that text is sealed as under some
nonce. So with one nonce text only one ciphertext opens to a text. -/
theorem opens_only_what_was_sealed (passphrase : String) (s : Sealed) :
    attempt passphrase s = some ((reveal passphrase s).mapError .encryption) ∧
      (∀ text, reveal passphrase s = .ok text ↔
        ∃ nonce : Nonce, s.iv = Base64.encode Base64.standard nonce.bytes ∧
          s.ciphertext = (ofText passphrase nonce text).ciphertext) ∧
      ∀ text ciphertext, reveal passphrase s = .ok text →
        (reveal passphrase ⟨ciphertext, s.iv⟩ = .ok text ↔ ciphertext = s.ciphertext) := by
  refine ⟨attempt_eq passphrase s, fun text => ⟨fun h => ?_, ?_⟩, fun text ciphertext h => ⟨fun h' => ?_, ?_⟩⟩
  · obtain ⟨nonce, rfl⟩ := eq_ofText_of_reveal h
    exact ⟨nonce, rfl, rfl⟩
  · rintro ⟨nonce, hiv, hciphertext⟩
    obtain ⟨_, _⟩ := s
    dsimp only at hiv hciphertext
    subst hiv hciphertext
    exact reveal_ofText passphrase nonce text
  · obtain ⟨nonce, rfl⟩ := eq_ofText_of_reveal h
    obtain ⟨nonce', hsealed'⟩ := eq_ofText_of_reveal h'
    obtain ⟨rfl, hiv⟩ := Sealed.mk.inj hsealed'
    -- both nonces are read from the same text
    have hnonce : nonce'.bytes = nonce.bytes := by
      have hread := congrArg (Base64.decodeText Base64.standard) hiv
      rw [ofText, Base64.decodeText_encode Base64.standard_legible,
        Base64.decodeText_encode Base64.standard_legible] at hread
      exact (Except.ok.inj hread).symm
    rw [ofText, hnonce]
  · rintro rfl
    exact h

end Gatehouse.Sealed
