import Mathlib.Algebra.Order.Ring.Nat
import Mathlib.Tactic.Ring
import Gatehouse.Number.Literal

/-!
# Integers as doubles

The double of an integer is the integer rounded to 53 significant bits (`Double.rounded`), whatever the quantum is: a
count of quanta and a multiple of it by a power of two are rounded alike (`Double.roundQuanta_mul_two_pow`). Rounding
keeps the order (`Double.rounded_mono`), and an integer of at most `2 ^ 53` as it is (`Double.rounded_of_le`). So
integers compare as they do after rounding (`Number.cmp_int`).
-/

namespace Gatehouse

namespace Double

/-! ### Nearest whole numbers -/

/-- The nearest whole number is the quotient or the one after it. -/
theorem roundDiv_cases (num den : Nat) :
    roundDiv num den = num / den ∧ 2 * (num % den) ≤ den ∨ roundDiv num den = num / den + 1 := by
  rw [roundDiv]
  split
  next h =>
    simp only [Bool.or_eq_true, Bool.and_eq_true, decide_eq_true_eq, beq_iff_eq] at h
    exact .inl ⟨rfl, by omega⟩
  next => exact .inr rfl

theorem roundDiv_mul_cancel {den : Nat} (hden : 0 < den) (k : Nat) : roundDiv (k * den) den = k := by
  have hquotient : k * den / den = k := Nat.mul_div_cancel k hden
  have hremainder : k * den % den = 0 := Nat.mul_mod_left k den
  simp [roundDiv, hquotient, hremainder, hden]

/-- A quotient is rounded as a number, however it is written. -/
theorem roundDiv_mul_mul {c : Nat} (hc : 0 < c) (num den : Nat) : roundDiv (num * c) (den * c) = roundDiv num den := by
  have hremainder : num * c % (den * c) = num % den * c := Nat.mul_mod_mul_right c num den
  have hless : 2 * (num % den * c) < den * c ↔ 2 * (num % den) < den := by
    rw [← Nat.mul_assoc, Nat.mul_lt_mul_right hc]
  have htie : 2 * (num % den * c) = den * c ↔ 2 * (num % den) = den := by
    rw [← Nat.mul_assoc, Nat.mul_left_inj (Nat.ne_of_gt hc)]
  simp only [roundDiv, Nat.mul_div_mul_right num den hc, hremainder, hless, htie, beq_eq_decide]

theorem roundDiv_mono {num num' : Nat} (h : num ≤ num') (den : Nat) : roundDiv num den ≤ roundDiv num' den := by
  have hquotient : num / den ≤ num' / den := Nat.div_le_div_right h
  have hnum := Nat.div_add_mod num den
  have hnum' := Nat.div_add_mod num' den
  by_cases heq : num / den = num' / den
  · -- in one interval the remainders decide, and a tie goes the same way for both
    rw [heq] at hnum
    have hremainder : num % den ≤ num' % den := by omega
    simp only [roundDiv, heq, Bool.or_eq_true, Bool.and_eq_true, decide_eq_true_eq, beq_iff_eq]
    split <;> split <;> omega
  · rcases roundDiv_cases num den with ⟨hround, -⟩ | hround <;>
      rcases roundDiv_cases num' den with ⟨hround', -⟩ | hround' <;> omega

/-! ### Significant bits -/

theorem roundQuanta_one (n : Nat) : roundQuanta n 1 = roundDiv n (2 ^ dropped n) * 2 ^ dropped n := by
  rw [roundQuanta, Nat.div_one, Nat.shiftLeft_eq, Nat.shiftLeft_eq, Nat.one_mul]

/-- A number of at most 53 bits stays. -/
theorem roundQuanta_of_lt {n : Nat} (h : n < 2 ^ 53) : roundQuanta n 1 = n := by
  have hdropped : dropped n = 0 := by
    have hlog : n.log2 < 53 := by
      by_cases hn : n = 0
      · subst hn
        decide
      · exact (Nat.log2_lt hn).mpr h
    rw [dropped]
    omega
  have hround := roundDiv_mul_cancel Nat.one_pos n
  rw [Nat.mul_one] at hround
  rw [roundQuanta_one, hdropped, Nat.pow_zero, hround, Nat.mul_one]

/-- Of a number of 53 bits and more all but the first 53 are dropped. -/
theorem dropped_of_le {n : Nat} (h : 2 ^ 52 ≤ n) : dropped n + 52 = n.log2 := by
  have hlog : 52 ≤ n.log2 := (Nat.le_log2 (by omega)).mpr h
  rw [dropped]
  omega

theorem log2_mul_two_pow {n : Nat} (hn : n ≠ 0) (k : Nat) : (n * 2 ^ k).log2 = n.log2 + k := by
  induction k with
  | zero => rw [Nat.pow_zero, Nat.mul_one, Nat.add_zero]
  | succ k ih =>
    have hpos : n * 2 ^ k ≠ 0 := Nat.mul_ne_zero hn (Nat.ne_of_gt (Nat.two_pow_pos k))
    have hdouble : n * 2 ^ (k + 1) = 2 * (n * 2 ^ k) := by ring
    rw [hdouble, Nat.log2_two_mul hpos, ih, Nat.add_assoc]

/-- A number that is a multiple of what is dropped bounds the rounded one if it bounds the number. -/
theorem roundQuanta_le {n x : Nat} (hx : 2 ^ dropped n ∣ x) (h : n ≤ x) : roundQuanta n 1 ≤ x := by
  obtain ⟨k, rfl⟩ := hx
  have hround := roundDiv_mono h (2 ^ dropped n)
  rw [Nat.mul_comm, roundDiv_mul_cancel (Nat.two_pow_pos _)] at hround
  rw [roundQuanta_one, Nat.mul_comm _ k]
  exact Nat.mul_le_mul_right _ hround

theorem le_roundQuanta {n x : Nat} (hx : 2 ^ dropped n ∣ x) (h : x ≤ n) : x ≤ roundQuanta n 1 := by
  obtain ⟨k, rfl⟩ := hx
  have hround := roundDiv_mono h (2 ^ dropped n)
  rw [Nat.mul_comm, roundDiv_mul_cancel (Nat.two_pow_pos _)] at hround
  rw [roundQuanta_one, Nat.mul_comm _ k]
  exact Nat.mul_le_mul_right _ hround

/-- **Rounding keeps the order.** -/
theorem roundQuanta_mono {m n : Nat} (h : m ≤ n) : roundQuanta m 1 ≤ roundQuanta n 1 := by
  by_cases hm : m = 0
  · subst hm
    exact Nat.zero_le _
  · have hn : n ≠ 0 := by omega
    have hlog : m.log2 ≤ n.log2 := (Nat.le_log2 hn).mpr (Nat.le_trans (Nat.log2_self_le hm) h)
    by_cases heq : m.log2 = n.log2
    · have hdropped : dropped m = dropped n := by rw [dropped, dropped, heq]
      rw [roundQuanta_one, roundQuanta_one, hdropped]
      exact Nat.mul_le_mul_right _ (roundDiv_mono h _)
    · -- a power of two lies between them, and is kept by both roundings
      have hupper : roundQuanta m 1 ≤ 2 ^ (m.log2 + 1) :=
        roundQuanta_le (Nat.pow_dvd_pow 2 (by rw [dropped]; omega)) (Nat.le_of_lt Nat.lt_log2_self)
      have hlower : 2 ^ n.log2 ≤ roundQuanta n 1 :=
        le_roundQuanta (Nat.pow_dvd_pow 2 (by rw [dropped]; omega)) (Nat.log2_self_le hn)
      have hbetween : 2 ^ (m.log2 + 1) ≤ 2 ^ n.log2 := Nat.pow_le_pow_right (by decide) (by omega)
      omega

/-- Rounding looks at significant bits only. -/
theorem roundQuanta_mul_two_pow (n k : Nat) : roundQuanta (n * 2 ^ k) 1 = roundQuanta n 1 * 2 ^ k := by
  by_cases hsmall : n < 2 ^ 52
  · by_cases hn : n = 0
    · subst hn
      rw [Nat.zero_mul, roundQuanta_of_lt (by decide), Nat.zero_mul]
    · -- no bit of `n` is dropped, so the multiple is a multiple of what it drops
      have hlog : n.log2 < 52 := (Nat.log2_lt hn).mpr hsmall
      have hdvd : 2 ^ dropped (n * 2 ^ k) ∣ n * 2 ^ k := by
        refine Nat.dvd_trans (Nat.pow_dvd_pow 2 ?_) (Nat.dvd_mul_left _ n)
        rw [dropped, log2_mul_two_pow hn]
        omega
      rw [roundQuanta_of_lt (n := n) (by omega)]
      exact Nat.le_antisymm (roundQuanta_le hdvd (Nat.le_refl _)) (le_roundQuanta hdvd (Nat.le_refl _))
  · have hlarge : 2 ^ 52 ≤ n := Nat.le_of_not_lt hsmall
    have hdropped : dropped (n * 2 ^ k) = dropped n + k := by
      have hn := dropped_of_le hlarge
      have hmul := dropped_of_le (Nat.le_trans hlarge (Nat.le_mul_of_pos_right n (Nat.two_pow_pos k)))
      rw [log2_mul_two_pow (by omega)] at hmul
      omega
    rw [roundQuanta_one, roundQuanta_one, hdropped, Nat.pow_add, roundDiv_mul_mul (Nat.two_pow_pos k), Nat.mul_assoc]

/-! ### Integers -/

/-- An integer rounded to 53 significant bits, a tie to the even one: its nearest double. -/
def rounded (n : Int) : Int := if n < 0 then -(roundQuanta n.natAbs 1 : Int) else roundQuanta n.natAbs 1

/-- The quantum is a power of two. -/
theorem exists_one_eq : ∃ k, one = 2 ^ k := by
  have hshift (k : Nat) : ∃ j, 1 <<< k = 2 ^ j := ⟨k, Nat.one_shiftLeft k⟩
  exact hshift 1074

theorem one_pos : 0 < one := by
  obtain ⟨k, hk⟩ := exists_one_eq
  rw [hk]
  exact Nat.two_pow_pos k

/-- The double of an integer is the rounded integer, counted in quanta. -/
theorem key_ofInt (n : Int) : (ofInt n).key = rounded n * one := by
  have hround : roundQuanta (n.natAbs * one) 1 = roundQuanta n.natAbs 1 * one := by
    obtain ⟨k, hk⟩ := exists_one_eq
    rw [hk, roundQuanta_mul_two_pow]
  rw [key, ofInt, rounded, hround]
  simp only [decide_eq_true_eq]
  split
  · rw [Int.neg_mul, Int.natCast_mul]
  · rw [Int.natCast_mul]

theorem rounded_mono {a b : Int} (h : a ≤ b) : rounded a ≤ rounded b := by
  rw [rounded, rounded]
  split <;> split
  · have hround : roundQuanta b.natAbs 1 ≤ roundQuanta a.natAbs 1 := roundQuanta_mono (by omega)
    omega
  · omega
  · omega
  · have hround : roundQuanta a.natAbs 1 ≤ roundQuanta b.natAbs 1 := roundQuanta_mono (by omega)
    omega

/-- Integers up to `2 ^ 53`, of either sign, are doubles. -/
theorem rounded_of_le {n : Int} (h : n.natAbs ≤ 2 ^ 53) : rounded n = n := by
  have hround : roundQuanta n.natAbs 1 = n.natAbs := by
    by_cases heq : n.natAbs = 2 ^ 53
    · rw [heq, ← Nat.one_mul (2 ^ 53), roundQuanta_mul_two_pow, roundQuanta_of_lt (by decide)]
    · exact roundQuanta_of_lt (by omega)
  rw [rounded, hround]
  split <;> omega

end Double

namespace Number

theorem compare_mul_of_pos {c : Int} (hc : 0 < c) (x y : Int) : compare (x * c) (y * c) = compare x y := by
  rcases lt_trichotomy x y with hlt | rfl | hgt
  · rw [compare_lt_iff_lt.mpr hlt, compare_lt_iff_lt.mpr (Int.mul_lt_mul_of_pos_right hlt hc)]
  · rw [compare_eq_iff_eq.mpr rfl, compare_eq_iff_eq.mpr rfl]
  · rw [compare_gt_iff_gt.mpr hgt, compare_gt_iff_gt.mpr (Int.mul_lt_mul_of_pos_right hgt hc)]

/-- **Integers compare as they do rounded.** -/
theorem cmp_int (a b : Int) : (int a).cmp (int b) = compare (Double.rounded a) (Double.rounded b) := by
  rw [cmp, Double.cmp, toDouble, toDouble, Double.key_ofInt, Double.key_ofInt]
  exact compare_mul_of_pos (Int.natCast_pos.mpr Double.one_pos) _ _

end Number

end Gatehouse
