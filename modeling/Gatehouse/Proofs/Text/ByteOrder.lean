import Gatehouse.Proofs.Text.Order
import Gatehouse.Proofs.Text.Utf8

/-!
# The order of bytes

Texts compare as the bytes that are written for them (`Utf8.compare_encode`). A later character is written in as many
bytes or in more. In more bytes it begins with a greater one, and in as many the bits come in order, the highest first
(`Utf8.compare_encodeChar_append_of_lt`).
-/

namespace Gatehouse.Utf8

/-- Bytes in order compare as lists that begin with them, if what follows equal ones is in order as well. -/
theorem compare_cons_of_le {m n : Nat} (hn : n < 256) (h : m ≤ n) {xs ys : List UInt8}
    (hrest : m = n → compare xs ys = .lt) : compare (m.toUInt8 :: xs) (n.toUInt8 :: ys) = .lt := by
  rw [List.compare_cons_cons]
  rcases Nat.lt_or_eq_of_le h with hlt | rfl
  · have hbyte : m.toUInt8 < n.toUInt8 := by
      rw [UInt8.lt_iff_toNat_lt, toNat_toUInt8 (Nat.lt_trans hlt hn), toNat_toUInt8 hn]
      exact hlt
    rw [Std.compare_eq_lt.mpr hbyte]
    rfl
  · rw [Std.ReflOrd.compare_self, hrest rfl]
    rfl

/-- **A character that comes first is written in bytes that come first.** The cases are those of the number of bytes
of the first character, and then of the second. -/
theorem compare_encodeChar_append_of_lt {c d : Char} (h : c.toNat < d.toNat) (xs ys : List UInt8) :
    compare (encodeChar c ++ xs) (encodeChar d ++ ys) = .lt := by
  have hvalid := toNat_lt d
  revert h hvalid
  unfold encodeChar
  generalize c.toNat = m
  generalize d.toNat = n
  intro h hvalid
  dsimp only
  split
  next hm =>
    split
    · exact compare_cons_of_le (by omega) (Nat.le_of_lt h) fun hfirst => absurd hfirst (Nat.ne_of_lt h)
    split
    · exact compare_cons_of_le (by omega) (by omega) fun hfirst => absurd hfirst (by omega)
    split
    · exact compare_cons_of_le (by omega) (by omega) fun hfirst => absurd hfirst (by omega)
    · exact compare_cons_of_le (by omega) (by omega) fun hfirst => absurd hfirst (by omega)
  split
  next _ hm =>
    rw [if_neg (by omega)]
    split
    · refine compare_cons_of_le (by omega) (by omega) fun hfirst => ?_
      exact compare_cons_of_le (by omega) (by omega) fun hsecond => absurd hsecond (by omega)
    split
    · exact compare_cons_of_le (by omega) (by omega) fun hfirst => absurd hfirst (by omega)
    · exact compare_cons_of_le (by omega) (by omega) fun hfirst => absurd hfirst (by omega)
  split
  next _ _ hm =>
    rw [if_neg (by omega), if_neg (by omega)]
    split
    · refine compare_cons_of_le (by omega) (by omega) fun hfirst => ?_
      refine compare_cons_of_le (by omega) (by omega) fun hsecond => ?_
      exact compare_cons_of_le (by omega) (by omega) fun hthird => absurd hthird (by omega)
    · exact compare_cons_of_le (by omega) (by omega) fun hfirst => absurd hfirst (by omega)
  next _ _ hm =>
    rw [if_neg (by omega), if_neg (by omega), if_neg (by omega)]
    refine compare_cons_of_le (by omega) (by omega) fun hfirst => ?_
    refine compare_cons_of_le (by omega) (by omega) fun hsecond => ?_
    refine compare_cons_of_le (by omega) (by omega) fun hthird => ?_
    exact compare_cons_of_le (by omega) (by omega) fun hfourth => absurd hfourth (by omega)

/-- No character is written in no bytes. -/
theorem exists_encodeChar_eq_cons (c : Char) : ∃ b bs, encodeChar c = b :: bs := by
  unfold encodeChar
  dsimp only
  split
  · exact ⟨_, _, rfl⟩
  split
  · exact ⟨_, _, rfl⟩
  split
  · exact ⟨_, _, rfl⟩
  · exact ⟨_, _, rfl⟩

theorem compare_encodeChars (cs ds : List Char) : compare (encodeChars cs) (encodeChars ds) = compare cs ds := by
  induction cs generalizing ds with
  | nil =>
    cases ds with
    | nil => rfl
    | cons d ds =>
      obtain ⟨b, bs, hd⟩ := exists_encodeChar_eq_cons d
      rw [encodeChars_cons, hd]
      rfl
  | cons c cs ih =>
    cases ds with
    | nil =>
      obtain ⟨b, bs, hc⟩ := exists_encodeChar_eq_cons c
      rw [encodeChars_cons, hc]
      rfl
    | cons d ds =>
      rw [encodeChars_cons, encodeChars_cons, List.compare_cons_cons, Text.compare_char]
      rcases Nat.lt_trichotomy c.toNat d.toNat with hlt | heq | hgt
      · rw [compare_encodeChar_append_of_lt hlt, Nat.compare_eq_lt.mpr hlt]
        rfl
      · obtain rfl := Char.toNat_inj.mp heq
        rw [Text.compare_append rfl, ih, Std.ReflOrd.compare_self, Std.ReflOrd.compare_self]
      · rw [Std.OrientedOrd.eq_swap, compare_encodeChar_append_of_lt hgt, Nat.compare_eq_gt.mpr hgt]
        rfl

/-- **Texts compare as their bytes.** -/
theorem compare_encode (s t : String) : compare (encode s) (encode t) = compare s t := by
  rw [encode, encode, compare_encodeChars, Text.compare_eq]

end Gatehouse.Utf8
