import Gatehouse.Crypto.Gcm

/-!
# AES-GCM opens what it seals

The key stream does not depend on the text, and adding it twice gives the text back
(`applyStream_applyStream`). That needs a full block of key stream for every sixteen bytes, so the sizes are
followed first: words of four bytes through the key schedule, round keys and states of sixteen.

Under a key of 32 bytes and a nonce of twelve:

* `decrypt?_encrypt`: what was encrypted decrypts to itself;
* `decrypt?_eq_some_iff`: nothing else decrypts, since the tag is one of the encrypted text.
-/

namespace Gatehouse.Crypto

namespace Aes

/-! ### Sizes -/

/-- The sum is as long as the shorter sequence. -/
theorem length_xorBytes (a b : Bytes) : (xorBytes a b).length = min a.length b.length :=
  List.length_zipWith

/-- Adding the same bytes twice changes nothing. -/
theorem xorBytes_xorBytes {a b : Bytes} (h : a.length ≤ b.length) :
    xorBytes (xorBytes a b) b = a := by
  induction a generalizing b with
  | nil => rfl
  | cons x a ih =>
    match b, h with
    | y :: b, h =>
      have hx : x ^^^ y ^^^ y = x := by
        rw [UInt8.xor_assoc, UInt8.xor_self, UInt8.xor_zero]
      have ha : xorBytes (xorBytes a b) b = a := ih (Nat.le_of_succ_le_succ h)
      simp only [xorBytes, List.zipWith_cons_cons, hx] at ha ⊢
      rw [ha]

/-- A state with its rows moved has sixteen bytes. -/
theorem length_shiftRows (s : Bytes) : (shiftRows s).length = 16 := by simp [shiftRows]

/-- Mixing keeps whole columns. -/
theorem length_mixColumns (s : Bytes) : (mixColumns s).length = s.length / 4 * 4 := by
  fun_induction mixColumns s with
  | case1 a b c d rest ih =>
    simp only [List.length_cons, ih]
    omega
  | case2 s h =>
    match s, h with
    | [], _ | [_], _ | [_, _], _ | [_, _, _], _ => simp
    | a :: b :: c :: d :: rest, h => exact absurd rfl (h a b c d rest)

/-- The rounds keep the size of a state. -/
theorem length_rounds {keys : List Bytes} (hkeys : ∀ k ∈ keys, k.length = 16) {s : Bytes}
    (hs : s.length = 16) : (rounds s keys).length = 16 := by
  fun_induction rounds s keys with
  | case1 => exact hs
  | case2 s k =>
    rw [length_xorBytes, length_shiftRows, hkeys k List.mem_cons_self]
    rfl
  | case3 s k ks hne ih =>
    refine ih (fun k' h => hkeys k' (List.mem_cons_of_mem k h)) ?_
    rw [length_xorBytes, length_mixColumns, length_shiftRows, hkeys k List.mem_cons_self]
    decide

/-- An encrypted block has sixteen bytes. -/
theorem length_encryptBlock {keys : List Bytes} (hkeys : ∀ k ∈ keys, k.length = 16)
    {block : Bytes} (hblock : block.length = 16) : (encryptBlock keys block).length = 16 := by
  simp only [encryptBlock]
  split
  · exact hblock
  · next k ks =>
    refine length_rounds (fun k' h => hkeys k' (List.mem_cons_of_mem k h)) ?_
    rw [length_xorBytes, hblock, hkeys k List.mem_cons_self]
    rfl

/-! ### The key schedule -/

/-- Words have four bytes. -/
theorem length_of_mem_cutWords {key w : Bytes} (h : w ∈ cutWords key) : w.length = 4 := by
  fun_induction cutWords key with
  | case1 a b c d rest ih =>
    rcases List.mem_cons.mp h with rfl | h
    · rfl
    · exact ih h
  | case2 => simp at h

/-- How many words some bytes hold. -/
theorem length_cutWords (key : Bytes) : (cutWords key).length = key.length / 4 := by
  fun_induction cutWords key with
  | case1 a b c d rest ih =>
    simp only [List.length_cons, ih]
    omega
  | case2 key h =>
    match key, h with
    | [], _ | [_], _ | [_, _], _ | [_, _, _], _ => simp
    | a :: b :: c :: d :: rest, h => exact absurd rfl (h a b c d rest)

/-- The next word has four bytes when those before it have. -/
theorem length_nextWord (index : Nat) {recent : List Bytes} (hcount : 8 ≤ recent.length)
    (hrecent : ∀ w ∈ recent, w.length = 4) : (nextWord index recent).length = 4 := by
  obtain ⟨last, words, rfl⟩ := List.exists_cons_of_length_pos (by omega : 0 < recent.length)
  have hlast : last.length = 4 := hrecent last List.mem_cons_self
  have heighth : ((last :: words).getD 7 []).length = 4 := by
    rw [List.getD_eq_getElem?_getD, List.getElem?_eq_getElem (by omega), Option.getD_some]
    exact hrecent _ (List.getElem_mem _)
  match last, hlast with
  | [a, b, c, d], _ =>
    rw [nextWord, length_xorBytes, heighth, List.headD_cons]
    split
    · simp
    split <;> simp

/-- All words that a key of eight words grows into have four bytes. -/
theorem length_of_mem_expandKey {key w : Bytes} (hkey : key.length = 32)
    (h : w ∈ expandKey key) : w.length = 4 := by
  have hgrow (indices : List Nat) (words : List Bytes) (hcount : 8 ≤ words.length)
      (hwords : ∀ w ∈ words, w.length = 4) :
      ∀ w ∈ indices.foldl (fun ws n => nextWord (n + 8) ws :: ws) words, w.length = 4 := by
    induction indices generalizing words with
    | nil => exact hwords
    | cons n indices ih =>
      refine ih _ (Nat.le_succ_of_le hcount) fun w hw => ?_
      rcases List.mem_cons.mp hw with rfl | hw
      · exact length_nextWord _ hcount hwords
      · exact hwords w hw
  refine hgrow (List.range 52) (cutWords key).reverse ?_ (fun w hw => ?_) w (List.mem_reverse.mp h)
  · have hcount : (cutWords key).reverse.length = 8 := by
      rw [List.length_reverse, length_cutWords, hkey]
    exact Nat.le_of_eq hcount.symm
  · exact length_of_mem_cutWords (List.mem_reverse.mp hw)

/-- Four words are the key of a round, of sixteen bytes. -/
theorem length_of_mem_roundKeys {words : List Bytes} (hwords : ∀ w ∈ words, w.length = 4)
    {k : Bytes} (h : k ∈ roundKeys words) : k.length = 16 := by
  fun_induction roundKeys words with
  | case1 a b c d rest ih =>
    rcases List.mem_cons.mp h with rfl | h
    · simp only [List.length_append, hwords a (by simp), hwords b (by simp), hwords c (by simp),
        hwords d (by simp)]
    · exact ih (fun w hw => hwords w (by simp [hw])) h
  | case2 => simp at h

/-- All keys of rounds of a key of eight words have sixteen bytes. -/
theorem length_of_mem_roundKeys_expandKey {key : Bytes} (hkey : key.length = 32) :
    ∀ k ∈ roundKeys (expandKey key), k.length = 16 := fun _ h =>
  length_of_mem_roundKeys (fun _ hw => length_of_mem_expandKey hkey hw) h

end Aes

namespace Gcm

/-! ### The key stream -/

variable {keys : List Bytes} (hkeys : ∀ k ∈ keys, k.length = 16) {nonce : Bytes}
  (hnonce : nonce.length = nonceSize)
include hkeys hnonce

/-- Each counter gives a full block of key stream. -/
theorem length_counterBlock (counter : Nat) :
    (Aes.encryptBlock keys (counterBlock nonce counter)).length = 16 := by
  apply Aes.length_encryptBlock hkeys
  rw [counterBlock, List.length_append, hnonce, Bytes.length_ofNat]
  rfl

omit hkeys hnonce in
/-- The key stream is added to a first block, and to the rest. -/
theorem stream_of_ne_nil (counter blocks : Nat) {bytes : Bytes} (h : bytes ≠ []) :
    stream keys nonce counter (blocks + 1) bytes =
      Aes.xorBytes (bytes.take 16) (Aes.encryptBlock keys (counterBlock nonce counter)) ++
        stream keys nonce (counter + 1) blocks (bytes.drop 16) := by
  rw [stream, if_neg (by simpa using h)]

/-- The added text is as long as the text. -/
theorem length_stream (counter : Nat) {blocks : Nat} {bytes : Bytes}
    (h : bytes.length ≤ 16 * blocks) :
    (stream keys nonce counter blocks bytes).length = bytes.length := by
  induction blocks generalizing counter bytes with
  | zero => rw [stream, List.length_nil]; omega
  | succ blocks ih =>
    rw [stream]
    split
    · next hempty => rw [List.isEmpty_iff.mp hempty]
    · rw [List.length_append, Aes.length_xorBytes, length_counterBlock hkeys hnonce,
        ih _ (by rw [List.length_drop]; omega), List.length_take, List.length_drop]
      omega

/-- **Adding the key stream twice gives the text back.** -/
theorem stream_stream (counter : Nat) {blocks : Nat} {bytes : Bytes}
    (h : bytes.length ≤ 16 * blocks) :
    stream keys nonce counter blocks (stream keys nonce counter blocks bytes) = bytes := by
  induction blocks generalizing counter bytes with
  | zero =>
    rw [stream]
    exact (List.length_eq_zero_iff.mp (by omega)).symm
  | succ blocks ih =>
    by_cases hempty : bytes = []
    · subst hempty
      rfl
    have hblock := length_counterBlock hkeys hnonce counter
    have hrest : (bytes.drop 16).length ≤ 16 * blocks := by rw [List.length_drop]; omega
    have hcover : (bytes.take 16).length ≤
        (Aes.encryptBlock keys (counterBlock nonce counter)).length := by
      rw [hblock, List.length_take]
      omega
    have hfirst := Aes.length_xorBytes (bytes.take 16)
      (Aes.encryptBlock keys (counterBlock nonce counter))
    have hsize := length_stream hkeys hnonce (counter + 1) hrest
    rw [hblock, List.length_take] at hfirst
    rw [List.length_drop] at hsize
    rw [stream_of_ne_nil counter blocks hempty]
    generalize hx : Aes.xorBytes (bytes.take 16) (Aes.encryptBlock keys (counterBlock nonce counter))
      = first at hfirst ⊢
    generalize hy : stream keys nonce (counter + 1) blocks (bytes.drop 16) = rest at hsize ⊢
    -- The added text is cut at the same place: either its first block is whole, or nothing follows.
    have hpos := List.length_pos_iff.mpr hempty
    have hne : first ++ rest ≠ [] :=
      List.ne_nil_of_length_pos (by rw [List.length_append]; omega)
    have htake : (first ++ rest).take 16 = first := by
      by_cases hwhole : first.length = 16
      · rw [← hwhole, List.take_left]
      · have hnil : rest = [] := List.length_eq_zero_iff.mp (by omega)
        rw [hnil, List.append_nil, List.take_of_length_le (by omega)]
    have hdrop : (first ++ rest).drop 16 = rest := by
      by_cases hwhole : first.length = 16
      · rw [← hwhole, List.drop_left]
      · have hnil : rest = [] := List.length_eq_zero_iff.mp (by omega)
        rw [hnil, List.append_nil, List.drop_of_length_le (by omega)]
    rw [stream_of_ne_nil counter blocks hne, htake, hdrop, ← hx, ← hy,
      Aes.xorBytes_xorBytes hcover, ih _ hrest]
    exact List.take_append_drop 16 bytes

/-- Encryption keeps the size. -/
theorem length_applyStream (bytes : Bytes) :
    (applyStream keys nonce bytes).length = bytes.length :=
  length_stream hkeys hnonce 2 (by omega)

/-- Encryption undoes itself. -/
theorem applyStream_applyStream (bytes : Bytes) :
    applyStream keys nonce (applyStream keys nonce bytes) = bytes := by
  have hlength := length_applyStream hkeys hnonce bytes
  simp only [applyStream] at hlength ⊢
  rw [hlength]
  exact stream_stream hkeys hnonce 2 (by omega)

/-- A tag has sixteen bytes. -/
theorem length_tag (encrypted : Bytes) : (tag keys nonce encrypted).length = tagSize := by
  rw [tag, Aes.length_xorBytes, Bytes.length_ofNat, length_counterBlock hkeys hnonce]
  rfl

omit hkeys in
/-- What is encrypted keeps its size, and a tag comes after it. -/
theorem exists_encrypt_eq {key : Bytes} (hkey : key.length = 32) (plain : Bytes) :
    ∃ body mark, encrypt key nonce plain = body ++ mark ∧ body.length = plain.length ∧
      mark.length = tagSize := by
  have hkeys := Aes.length_of_mem_roundKeys_expandKey hkey
  exact ⟨_, _, rfl, length_applyStream hkeys hnonce plain, length_tag hkeys hnonce _⟩

omit hkeys in
/-- **What was encrypted decrypts to itself.** -/
theorem decrypt?_encrypt {key : Bytes} (hkey : key.length = 32) (plain : Bytes) :
    decrypt? key nonce (encrypt key nonce plain) = some plain := by
  have hkeys := Aes.length_of_mem_roundKeys_expandKey hkey
  have htag := length_tag hkeys hnonce (applyStream (Aes.roundKeys (Aes.expandKey key)) nonce plain)
  unfold decrypt? encrypt
  dsimp only
  rw [List.length_append, htag, Nat.add_sub_cancel, List.take_left, List.drop_left,
    applyStream_applyStream hkeys hnonce]
  simp

omit hkeys in
/-- **Bytes decrypt to a text exactly if they are what the text is encrypted to.** -/
theorem decrypt?_eq_some_iff {key : Bytes} (hkey : key.length = 32) {encrypted plain : Bytes} :
    decrypt? key nonce encrypted = some plain ↔ encrypted = encrypt key nonce plain := by
  constructor
  · intro h
    have hkeys := Aes.length_of_mem_roundKeys_expandKey hkey
    rw [decrypt?] at h
    obtain ⟨hchecks, hplain⟩ := Option.ite_none_right_eq_some.mp h
    obtain ⟨-, htag⟩ := Bool.and_eq_true_iff.mp hchecks
    obtain rfl := Option.some.inj hplain
    rw [encrypt, applyStream_applyStream hkeys hnonce, ← of_decide_eq_true htag, List.take_append_drop]
  · rintro rfl
    exact decrypt?_encrypt hnonce hkey plain

end Gcm

/-- A hash has 32 bytes. -/
theorem length_sha256 (message : Bytes) : (sha256 message).length = 32 := by
  simp [sha256, Sha256.wordBytes]

end Gatehouse.Crypto
