import Gatehouse.Uuid
import Mathlib.Data.List.Basic
import Mathlib.Tactic.Ring

/-!
# The written form of an identifier

An identifier is written as 32 hexadecimal digits in five groups with hyphens between them, and read back from
what is written (`Uuid.hyphenated?_renderChars`). The five groups are cut from one row of digits
(`Uuid.digits_append`), so only the row has to be read back.
-/

namespace Gatehouse.Uuid

/-! ### Digits -/

theorem digitValue?_digit {n : Nat} (h : n < 16) : digitValue? (digit n) = some n := by
  have hall : ∀ n ∈ List.range 16, digitValue? (digit n) = some n := by decide
  exact hall n (List.mem_range.mpr h)

theorem digit_ne_hyphen {n : Nat} (h : n < 16) : digit n ≠ '-' := by
  have hall : ∀ n ∈ List.range 16, digit n ≠ '-' := by decide
  exact hall n (List.mem_range.mpr h)

@[simp] theorem length_digits (n count : Nat) : (digits n count).length = count := by
  induction count with
  | zero => rfl
  | succ count ih => rw [digits, List.length_cons, ih]

theorem ne_hyphen_of_mem_digits {n count : Nat} {c : Char} (h : c ∈ digits n count) : c ≠ '-' := by
  induction count with
  | zero => exact absurd h List.not_mem_nil
  | succ count ih =>
    obtain rfl | h := List.mem_cons.mp h
    · exact digit_ne_hyphen (Nat.mod_lt _ (by decide))
    · exact ih h

/-- A row of digits is the row of the higher ones and the row of the lower ones. -/
theorem digits_append (n high low : Nat) :
    digits (n >>> (4 * low)) high ++ digits n low = digits n (high + low) := by
  induction high with
  | zero => rw [Nat.zero_add, digits, List.nil_append]
  | succ high ih =>
    have hshift : n >>> (4 * low) >>> (4 * high) = n >>> (4 * (high + low)) := by
      rw [← Nat.shiftRight_add]
      congr 1
      ring
    rw [Nat.succ_add, digits, digits, List.cons_append, ih, hshift]

/-- A row of digits is read as the number that it was written for, as far as the digits go. -/
theorem number?_digits (acc n count : Nat) :
    number? acc (digits n count) = some (acc * 16 ^ count + n % 16 ^ count) := by
  induction count generalizing acc with
  | zero => rw [digits, number?, pow_zero, Nat.mod_one, Nat.mul_one, Nat.add_zero]
  | succ count ih =>
    have hdigit : n >>> (4 * count) % 16 < 16 := Nat.mod_lt _ (by decide)
    have hshift : n >>> (4 * count) = n / 16 ^ count := by
      rw [Nat.shiftRight_eq_div_pow, pow_mul]
      rfl
    have hmod : n % 16 ^ (count + 1) = n % 16 ^ count + 16 ^ count * (n / 16 ^ count % 16) := by
      rw [pow_succ, Nat.mod_mul]
    rw [digits, number?, digitValue?_digit hdigit]
    dsimp only
    rw [ih, hshift, hmod]
    congr 1
    ring

/-! ### Identifiers -/

/-- Without the hyphens, an identifier is a row of 32 digits. -/
theorem filter_renderChars (u : Uuid) : u.renderChars.filter (· ≠ '-') = digits u.bits.toNat 32 := by
  have hkeep (n count : Nat) : (digits n count).filter (· ≠ '-') = digits n count :=
    List.filter_eq_self.mpr fun _ hc => decide_eq_true (ne_hyphen_of_mem_digits hc)
  have hdrop (cs : List Char) : ('-' :: cs).filter (· ≠ '-') = cs.filter (· ≠ '-') :=
    List.filter_cons_of_neg (by decide)
  simp only [renderChars, List.filter_append, hdrop, hkeep, List.append_assoc]
  rw [digits_append _ 4 12, digits_append _ 4 16, digits_append _ 4 20, digits_append _ 8 24]

theorem length_renderChars (u : Uuid) : u.renderChars.length = 36 := by
  simp [renderChars]

/-- A row of 32 digits is read as the identifier that it was written for. -/
theorem simple?_digits (u : Uuid) : simple? (digits u.bits.toNat 32) = some u := by
  have hbits : u.bits.toNat % 16 ^ 32 = u.bits.toNat := Nat.mod_eq_of_lt u.bits.isLt
  rw [simple?, if_pos (length_digits _ _), number?_digits, hbits, Nat.zero_mul, Nat.zero_add, Option.map_some,
    BitVec.ofNat_toNat, BitVec.setWidth_eq]

/-- **Every identifier is written in the hyphenated form**, from which it is read back. -/
theorem hyphenated?_renderChars (u : Uuid) : hyphenated? u.renderChars = some u := by
  have hhyphens : u.renderChars[8]? = some '-' ∧ u.renderChars[13]? = some '-' ∧
      u.renderChars[18]? = some '-' ∧ u.renderChars[23]? = some '-' := by
    simp [renderChars]
  obtain ⟨h8, h13, h18, h23⟩ := hhyphens
  rw [hyphenated?, filter_renderChars, simple?_digits]
  exact if_pos (by simp only [length_renderChars, h8, h13, h18, h23, decide_true, Bool.and_self])

end Gatehouse.Uuid
