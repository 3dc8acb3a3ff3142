import Gatehouse.Text.Utf8

/-!
# UTF-8: what is written is read back, and nothing else

Every character is written as one to four bytes that are read as that character and nothing else
(`piecesFrom_encodeChar`), whatever bytes follow. So a written text has no unreadable run:

* `decode_encode`: decoding gives the text back;
* `symbols_encode`: its symbols are its characters, without a hole.

Conversely the bytes that complete a character are those written for it (`encodeChar_of_takes`): the bounds
that a first byte sets for the second leave out longer forms and surrogates. So a text has one written form:

* `decode_eq_ok_iff`: bytes are read as a text exactly if they are what is written for it.
-/

namespace Gatehouse.Utf8

/-! ### Single bytes -/

/-- A number below 256 is the number of its byte. -/
theorem toNat_toUInt8 {n : Nat} (h : n < 256) : n.toUInt8.toNat = n := by
  rw [Nat.toUInt8, UInt8.toNat_ofNat']
  exact Nat.mod_eq_of_lt h

/-- A byte that follows another is accepted when it lies between the bounds. -/
theorem accepts_toUInt8 {p : Partial} {n : Nat} (hn : n < 256) (hlow : p.low.toNat ≤ n)
    (hhigh : n ≤ p.high.toNat) : p.accepts n.toUInt8 = true := by
  rw [Partial.accepts, Bool.and_eq_true, decide_eq_true_iff, decide_eq_true_iff,
    UInt8.le_iff_toNat_le, UInt8.le_iff_toNat_le, toNat_toUInt8 hn]
  exact ⟨hlow, hhigh⟩

/-- The last byte of a character. -/
theorem piecesFrom_last {p : Partial} {n : Nat} (bs : List UInt8) (hn : n < 256)
    (hlow : p.low.toNat ≤ n) (hhigh : n ≤ p.high.toNat) (hmissing : p.missing ≤ 1) :
    piecesFrom (some p) (n.toUInt8 :: bs) =
      .char (Char.ofNat (p.value * 0x40 + (n - 0x80))) :: piecesFrom none bs := by
  have haccepts := accepts_toUInt8 hn hlow hhigh
  have hextend : p.extend n.toUInt8 = p.value * 0x40 + (n - 0x80) := by
    unfold Partial.extend
    rw [toNat_toUInt8 hn]
  rw [piecesFrom, if_pos haccepts, if_pos hmissing, hextend]

/-- A byte of a character that is not the last. -/
theorem piecesFrom_more {p : Partial} {n : Nat} (bs : List UInt8) (hn : n < 256)
    (hlow : p.low.toNat ≤ n) (hhigh : n ≤ p.high.toNat) (hmissing : 1 < p.missing) :
    piecesFrom (some p) (n.toUInt8 :: bs) =
      piecesFrom (some ⟨p.value * 0x40 + (n - 0x80), p.width + 1, p.missing - 1, 0x80, 0xBF⟩)
        bs := by
  have haccepts := accepts_toUInt8 hn hlow hhigh
  have hextend : p.extend n.toUInt8 = p.value * 0x40 + (n - 0x80) := by
    unfold Partial.extend
    rw [toNat_toUInt8 hn]
  rw [piecesFrom, if_pos haccepts, if_neg (by omega), hextend]

/-- A first byte that opens a character. -/
theorem piecesFrom_opens {n : Nat} {p : Partial} (bs : List UInt8)
    (h : lead n.toUInt8 = .opens p) :
    piecesFrom none (n.toUInt8 :: bs) = piecesFrom (some p) bs := by
  rw [piecesFrom, h]

/-- A character's own number is no surrogate and at most U+10FFFF. -/
theorem toNat_lt (c : Char) : c.toNat < 0xD800 ∨ 0xDFFF < c.toNat ∧ c.toNat < 0x110000 := c.valid

/-! ### Characters -/

/-- **The bytes of a character are read as that character.** The cases are those of the number of
bytes; within the longer forms the first byte decides which second bytes it admits. -/
theorem piecesFrom_encodeChar (c : Char) (bs : List UInt8) :
    piecesFrom none (encodeChar c ++ bs) = .char c :: piecesFrom none bs := by
  have hvalid := toNat_lt c
  have hback : Char.ofNat c.toNat = c := Char.ofNat_toNat c
  revert hvalid hback
  unfold encodeChar
  generalize c.toNat = n
  intro hvalid hback
  dsimp only
  split
  · next h1 =>
    have hlead : lead n.toUInt8 = .whole c := by
      simp only [lead, toNat_toUInt8 (show n < 256 by omega), h1, if_true, hback]
    rw [List.singleton_append, piecesFrom, hlead]
  split
  · next h1 h2 =>
    have hlead : lead (0xC0 + n / 0x40).toUInt8 = .opens ⟨n / 0x40, 1, 1, 0x80, 0xBF⟩ := by
      simp only [lead, toNat_toUInt8 (show 0xC0 + n / 0x40 < 256 by omega)]
      rw [if_neg (by omega), if_neg (by omega), if_pos (by omega), Nat.add_sub_cancel_left]
    have hvalue : n / 0x40 * 0x40 + (0x80 + n % 0x40 - 0x80) = n := by omega
    simp only [List.cons_append, List.nil_append]
    rw [piecesFrom_opens _ hlead, piecesFrom_last _ (by omega) (by simp) (by simp; omega) (by simp),
      hvalue, hback]
  split
  · next h1 h2 h3 =>
    obtain ⟨low, high, hlead, hlow, hhigh⟩ : ∃ low high : UInt8,
        lead (0xE0 + n / 0x1000).toUInt8 = .opens ⟨n / 0x1000, 1, 2, low, high⟩ ∧
          low.toNat ≤ 0x80 + n / 0x40 % 0x40 ∧ 0x80 + n / 0x40 % 0x40 ≤ high.toNat := by
      simp only [lead, toNat_toUInt8 (show 0xE0 + n / 0x1000 < 256 by omega)]
      rw [if_neg (by omega), if_neg (by omega), if_neg (by omega)]
      split
      · exact ⟨0xA0, 0xBF, by simp; omega, by simp; omega, by simp; omega⟩
      split
      · exact ⟨0x80, 0x9F, by simp; omega, by simp, by simp; omega⟩
      · rw [if_pos (by omega), Nat.add_sub_cancel_left]
        exact ⟨0x80, 0xBF, rfl, by simp, by simp; omega⟩
    have hvalue : (n / 0x1000 * 0x40 + (0x80 + n / 0x40 % 0x40 - 0x80)) * 0x40 +
        (0x80 + n % 0x40 - 0x80) = n := by omega
    simp only [List.cons_append, List.nil_append]
    rw [piecesFrom_opens _ hlead, piecesFrom_more _ (by omega) hlow hhigh (by simp),
      piecesFrom_last _ (by omega) (by simp) (by simp; omega) (by simp), hvalue, hback]
  · next h1 h2 h3 =>
    obtain ⟨low, high, hlead, hlow, hhigh⟩ : ∃ low high : UInt8,
        lead (0xF0 + n / 0x40000).toUInt8 = .opens ⟨n / 0x40000, 1, 3, low, high⟩ ∧
          low.toNat ≤ 0x80 + n / 0x1000 % 0x40 ∧ 0x80 + n / 0x1000 % 0x40 ≤ high.toNat := by
      simp only [lead, toNat_toUInt8 (show 0xF0 + n / 0x40000 < 256 by omega)]
      rw [if_neg (by omega), if_neg (by omega), if_neg (by omega), if_neg (by omega),
        if_neg (by omega), if_neg (by omega)]
      split
      · exact ⟨0x90, 0xBF, by simp; omega, by simp; omega, by simp; omega⟩
      split
      · exact ⟨0x80, 0xBF, by simp, by simp, by simp; omega⟩
      · rw [if_pos (by omega)]
        exact ⟨0x80, 0x8F, by simp; omega, by simp, by simp; omega⟩
    have hvalue : ((n / 0x40000 * 0x40 + (0x80 + n / 0x1000 % 0x40 - 0x80)) * 0x40 +
        (0x80 + n / 0x40 % 0x40 - 0x80)) * 0x40 + (0x80 + n % 0x40 - 0x80) = n := by omega
    simp only [List.cons_append, List.nil_append]
    rw [piecesFrom_opens _ hlead, piecesFrom_more _ (by omega) hlow hhigh (by simp),
      piecesFrom_more _ (by omega) (by simp) (by simp; omega) (by simp),
      piecesFrom_last _ (by omega) (by simp) (by simp; omega) (by simp), hvalue, hback]

/-! ### Texts -/

/-- The pieces of written characters are those characters. -/
theorem pieces_encodeChars (cs : List Char) : pieces (encodeChars cs) = cs.map .char := by
  rw [pieces]
  induction cs with
  | nil => rfl
  | cons c cs ih => rw [encodeChars_cons, piecesFrom_encodeChar, ih, List.map_cons]

/-- Characters alone are readable, from any offset. -/
theorem readable_map_char (offset : Nat) (cs : List Char) :
    readable offset (cs.map .char) = .ok cs := by
  induction cs generalizing offset with
  | nil => rfl
  | cons c cs ih => rw [List.map_cons, readable, ih]

/-- What is written is read back. -/
theorem decode_encode (s : String) : decode (encode s) = .ok s := by
  rw [decode, encode, pieces_encodeChars, readable_map_char]
  simp [Except.map]

/-- The symbols of a written text are its characters: none is a hole. -/
theorem symbols_encode (s : String) : symbols (encode s) = s.toList.map some := by
  rw [symbols, encode, pieces_encodeChars, List.map_map]
  rfl

/-! ### What is read was written -/

/-- A number that is no surrogate is the number of its character. -/
theorem toNat_ofNat {n : Nat} (h : n < 0xD800 ∨ 0xDFFF < n ∧ n < 0x110000) : (Char.ofNat n).toNat = n := by
  have hvalid : n.isValidChar := h
  rw [Char.ofNat, dif_pos hvalid]
  rfl

/-- The characters of two, three and four bytes, from the bits that their bytes hold. -/
theorem encodeChar_two {x y : Nat} (hlow : 2 ≤ x) (hhigh : x < 0x20) (hy : y < 0x40) :
    encodeChar (Char.ofNat (x * 0x40 + y)) = [(0xC0 + x).toUInt8, (0x80 + y).toUInt8] := by
  have hx : (x * 0x40 + y) / 0x40 = x := by omega
  have hy' : (x * 0x40 + y) % 0x40 = y := by omega
  rw [encodeChar, toNat_ofNat (by omega)]
  rw [if_neg (by omega), if_pos (by omega), hx, hy']

theorem encodeChar_three {x y z : Nat} (hlow : 0x20 ≤ x * 0x40 + y) (hx : x < 0x10)
    (hsurrogate : x * 0x40 + y < 0x360 ∨ 0x380 ≤ x * 0x40 + y) (hy : y < 0x40) (hz : z < 0x40) :
    encodeChar (Char.ofNat ((x * 0x40 + y) * 0x40 + z)) =
      [(0xE0 + x).toUInt8, (0x80 + y).toUInt8, (0x80 + z).toUInt8] := by
  have hx' : ((x * 0x40 + y) * 0x40 + z) / 0x1000 = x := by omega
  have hy' : ((x * 0x40 + y) * 0x40 + z) / 0x40 % 0x40 = y := by omega
  have hz' : ((x * 0x40 + y) * 0x40 + z) % 0x40 = z := by omega
  rw [encodeChar, toNat_ofNat (by omega)]
  rw [if_neg (by omega), if_neg (by omega), if_pos (by omega), hx', hy', hz']

theorem encodeChar_four {x y z w : Nat} (hlow : 0x10 ≤ x * 0x40 + y) (hhigh : x * 0x40 + y < 0x110)
    (hy : y < 0x40) (hz : z < 0x40) (hw : w < 0x40) :
    encodeChar (Char.ofNat (((x * 0x40 + y) * 0x40 + z) * 0x40 + w)) =
      [(0xF0 + x).toUInt8, (0x80 + y).toUInt8, (0x80 + z).toUInt8, (0x80 + w).toUInt8] := by
  have hx' : (((x * 0x40 + y) * 0x40 + z) * 0x40 + w) / 0x40000 = x := by omega
  have hy' : (((x * 0x40 + y) * 0x40 + z) * 0x40 + w) / 0x1000 % 0x40 = y := by omega
  have hz' : (((x * 0x40 + y) * 0x40 + z) * 0x40 + w) / 0x40 % 0x40 = z := by omega
  have hw' : (((x * 0x40 + y) * 0x40 + z) * 0x40 + w) % 0x40 = w := by omega
  rw [encodeChar, toNat_ofNat (by omega)]
  rw [if_neg (by omega), if_neg (by omega), if_neg (by omega), hx', hy', hz', hw']

/-- The bytes that complete a partly read character, and the number they complete it to. -/
inductive Partial.Takes : Partial → List UInt8 → Nat → Prop where
  | last {p : Partial} {b : UInt8} : p.accepts b → p.missing ≤ 1 → p.Takes [b] (p.extend b)
  | more {p : Partial} {b : UInt8} {bs : List UInt8} {n : Nat} : p.accepts b → 1 < p.missing →
    Partial.Takes ⟨p.extend b, p.width + 1, p.missing - 1, 0x80, 0xBF⟩ bs n → p.Takes (b :: bs) n

/-- Inversion where one byte is missing. -/
theorem Partial.Takes.last_inv {p : Partial} {bs : List UInt8} {n : Nat} (h : p.Takes bs n)
    (hmissing : p.missing ≤ 1) : ∃ b, bs = [b] ∧ p.accepts b ∧ n = p.extend b := by
  cases h with
  | last haccepts _ => exact ⟨_, rfl, haccepts, rfl⟩
  | more _ hmore => omega

/-- Inversion where more bytes are missing. -/
theorem Partial.Takes.more_inv {p : Partial} {bs : List UInt8} {n : Nat} (h : p.Takes bs n)
    (hmissing : 1 < p.missing) : ∃ b rest, bs = b :: rest ∧ p.accepts b ∧
      Partial.Takes ⟨p.extend b, p.width + 1, p.missing - 1, 0x80, 0xBF⟩ rest n := by
  cases h with
  | last _ hlast => omega
  | more haccepts _ htakes => exact ⟨_, _, rfl, haccepts, htakes⟩

/-- Where no run is unreadable, a partly read character is completed first. -/
theorem exists_takes_of_piecesFrom {p : Partial} {bs : List UInt8} {cs : List Char}
    (h : piecesFrom (some p) bs = cs.map .char) :
    ∃ taken rest n cs', bs = taken ++ rest ∧ p.Takes taken n ∧ cs = Char.ofNat n :: cs' ∧
      piecesFrom none rest = cs'.map .char := by
  induction bs generalizing p with
  | nil =>
    rw [piecesFrom] at h
    cases cs <;> simp at h
  | cons b bs ih =>
    rw [piecesFrom] at h
    split at h
    next haccepts =>
      split at h
      next hmissing =>
        obtain ⟨c, cs', rfl, hc, hrest⟩ := List.map_eq_cons_iff.mp h.symm
        rw [Piece.char.injEq] at hc
        exact ⟨[b], bs, _, cs', rfl, .last haccepts hmissing, by rw [hc], hrest.symm⟩
      next hmissing =>
        obtain ⟨taken, rest, n, cs', rfl, htakes, rfl, hrest⟩ := ih h
        exact ⟨b :: taken, rest, n, cs', rfl, .more haccepts (by omega) htakes, rfl, hrest⟩
    next =>
      obtain ⟨c, cs', -, hc, -⟩ := List.map_eq_cons_iff.mp h.symm
      exact absurd hc nofun

/-- A byte that continues a character holds six bits. -/
theorem exists_of_accepts {p : Partial} {b : UInt8} (h : p.accepts b = true) (hlow : 0x80 ≤ p.low.toNat)
    (hhigh : p.high.toNat ≤ 0xBF) :
    ∃ y, y < 0x40 ∧ b = (0x80 + y).toUInt8 ∧ p.low.toNat ≤ 0x80 + y ∧ 0x80 + y ≤ p.high.toNat ∧
      p.extend b = p.value * 0x40 + y := by
  rw [Partial.accepts, Bool.and_eq_true, decide_eq_true_iff, decide_eq_true_iff, UInt8.le_iff_toNat_le,
    UInt8.le_iff_toNat_le] at h
  obtain ⟨hge, hle⟩ := h
  have hb : 0x80 + (b.toNat - 0x80) = b.toNat := by omega
  refine ⟨b.toNat - 0x80, by omega, ?_, by omega, by omega, rfl⟩
  rw [hb]
  exact UInt8.ofNat_toNat.symm

/-- The numbers of a first byte that opens a character, and the bounds it sets for the second. -/
theorem of_lead_eq_opens {b : UInt8} {p : Partial} (h : lead b = .opens p) :
    p.width = 1 ∧ 0x80 ≤ p.low.toNat ∧ p.high.toNat ≤ 0xBF ∧
      (p.missing = 1 ∧ b.toNat = 0xC0 + p.value ∧ 2 ≤ p.value ∧ p.value < 0x20 ∨
        p.missing = 2 ∧ b.toNat = 0xE0 + p.value ∧ p.value < 0x10 ∧
          (p.value = 0 → 0xA0 ≤ p.low.toNat) ∧ (p.value = 0xD → p.high.toNat ≤ 0x9F) ∨
        p.missing = 3 ∧ b.toNat = 0xF0 + p.value ∧ p.value < 5 ∧
          (p.value = 0 → 0x90 ≤ p.low.toNat) ∧ (p.value = 4 → p.high.toNat ≤ 0x8F)) := by
  have hb : b.toNat < 256 := b.toNat_lt
  unfold lead at h
  dsimp only at h
  generalize b.toNat = n at h hb ⊢
  split at h
  · exact absurd h nofun
  split at h
  · exact absurd h nofun
  iterate 7
    split at h
    · rw [Lead.opens.injEq] at h
      rw [← h]
      simp
      omega
  exact absurd h nofun

/-- The bytes that complete a character are those that are written for it after its first byte. -/
theorem encodeChar_of_takes {b : UInt8} {p : Partial} {taken : List UInt8} {n : Nat}
    (hlead : lead b = .opens p) (htakes : p.Takes taken n) :
    encodeChar (Char.ofNat n) = b :: taken := by
  obtain ⟨-, hlow, hhigh, hcases⟩ := of_lead_eq_opens hlead
  have hfirst (k : Nat) (h : b.toNat = k) : k.toUInt8 = b := h ▸ UInt8.ofNat_toNat
  have htail : 0x80 ≤ (0x80 : UInt8).toNat ∧ (0xBF : UInt8).toNat ≤ 0xBF := by decide
  rcases hcases with ⟨hmissing, hvalue, hrange⟩ | ⟨hmissing, hvalue, hrange⟩ | ⟨hmissing, hvalue, hrange⟩
  · obtain ⟨b₂, rfl, haccepts, hn⟩ := htakes.last_inv (Nat.le_of_eq hmissing)
    obtain ⟨y, hy, hsecond, -, -, hextend⟩ := exists_of_accepts haccepts hlow hhigh
    rw [hn, hextend, encodeChar_two hrange.1 hrange.2 hy, hfirst _ hvalue, hsecond]
  · obtain ⟨b₂, _, rfl, haccepts, htakes⟩ := htakes.more_inv (by omega)
    obtain ⟨y, hy, hsecond, hylow, hyhigh, hextend⟩ := exists_of_accepts haccepts hlow hhigh
    obtain ⟨b₃, rfl, haccepts, hn⟩ := htakes.last_inv (by dsimp only; omega)
    obtain ⟨z, hz, hthird, -, -, hextend'⟩ := exists_of_accepts haccepts htail.1 htail.2
    rw [hn, hextend', hextend, encodeChar_three (by omega) (by omega) (by omega) hy hz, hfirst _ hvalue, hsecond,
      hthird]
  · obtain ⟨b₂, _, rfl, haccepts, htakes⟩ := htakes.more_inv (by omega)
    obtain ⟨y, hy, hsecond, hylow, hyhigh, hextend⟩ := exists_of_accepts haccepts hlow hhigh
    obtain ⟨b₃, _, rfl, haccepts, htakes⟩ := htakes.more_inv (by dsimp only; omega)
    obtain ⟨z, hz, hthird, -, -, hextend'⟩ := exists_of_accepts haccepts htail.1 htail.2
    obtain ⟨b₄, rfl, haccepts, hn⟩ := htakes.last_inv (by dsimp only; omega)
    obtain ⟨w, hw, hfourth, -, -, hextend''⟩ := exists_of_accepts haccepts htail.1 htail.2
    rw [hn, hextend'', hextend', hextend, encodeChar_four (by omega) (by omega) hy hz hw, hfirst _ hvalue,
      hsecond, hthird, hfourth]

/-- A byte that is a character alone is written for it. -/
theorem encodeChar_of_lead {b : UInt8} {c : Char} (h : lead b = .whole c) : encodeChar c = [b] := by
  unfold lead at h
  dsimp only at h
  split at h
  next hlt =>
    rw [Lead.whole.injEq] at h
    rw [← h, encodeChar, toNat_ofNat (by omega)]
    rw [if_pos hlt]
    exact congrArg (fun x => [x]) UInt8.ofNat_toNat
  next =>
    repeat' split at h
    all_goals exact absurd h nofun

/-- Bytes without an unreadable run are those written for their characters. -/
theorem eq_encodeChars_of_pieces {bs : List UInt8} {cs : List Char} (h : pieces bs = cs.map .char) :
    bs = encodeChars cs := by
  rw [pieces] at h
  induction hlength : bs.length using Nat.strongRecOn generalizing bs cs with
  | ind length ih =>
    cases bs with
    | nil =>
      rw [piecesFrom] at h
      rw [List.map_eq_nil_iff.mp h.symm, encodeChars_nil]
    | cons b bs =>
      rw [piecesFrom] at h
      rw [List.length_cons] at hlength
      split at h
      next c hlead =>
        obtain ⟨c', cs', rfl, hc, hrest⟩ := List.map_eq_cons_iff.mp h.symm
        obtain rfl := Piece.char.inj hc
        rw [encodeChars_cons, encodeChar_of_lead hlead, ← ih bs.length (by omega) hrest.symm rfl]
        rfl
      next p hlead =>
        obtain ⟨taken, rest, n, cs', rfl, htakes, rfl, hrest⟩ := exists_takes_of_piecesFrom h
        rw [List.length_append] at hlength
        rw [encodeChars_cons, encodeChar_of_takes hlead htakes, ← ih rest.length (by omega) hrest rfl]
        rfl
      next =>
        obtain ⟨c', cs', -, hc, -⟩ := List.map_eq_cons_iff.mp h.symm
        exact absurd hc nofun

/-- A readable list of pieces is a list of characters. -/
theorem eq_map_char_of_readable {offset : Nat} {ps : List Piece} {cs : List Char}
    (h : readable offset ps = .ok cs) : ps = cs.map .char := by
  induction ps generalizing offset cs with
  | nil =>
    obtain rfl := Except.ok.inj h
    rfl
  | cons p ps ih =>
    cases p with
    | char c =>
      rw [readable] at h
      split at h
      next cs' hrest =>
        obtain rfl := Except.ok.inj h
        rw [List.map_cons, ← ih hrest]
      next => exact absurd h nofun
    | invalid => exact absurd h nofun
    | truncated => exact absurd h nofun

/-- **Bytes are read as a text exactly if they are what is written for it.** -/
theorem decode_eq_ok_iff {bs : List UInt8} {s : String} : decode bs = .ok s ↔ bs = encode s := by
  constructor
  · intro h
    rw [decode] at h
    cases hread : readable 0 (pieces bs) with
    | error e =>
      rw [hread] at h
      exact absurd h nofun
    | ok cs =>
      rw [hread] at h
      obtain rfl := Except.ok.inj h
      rw [encode, String.toList_ofList]
      exact eq_encodeChars_of_pieces (eq_map_char_of_readable hread)
  · rintro rfl
    exact decode_encode s

end Gatehouse.Utf8
