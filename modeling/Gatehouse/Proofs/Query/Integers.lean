import Gatehouse.Query.Sort
import Gatehouse.Proofs.Filter.Meaning
import Gatehouse.Proofs.Number.Rounding

/-!
# Integers in queries

A filter and a sort order compare the integer that a document holds with the double nearest to each side
(`Query.tells_rounded`). Rounding keeps the order, so what they tell is never the wrong way round, and it is what holds
of the integers themselves exactly unless these are two with one nearest double. Up to `2 ^ 53`, of either sign, there
are no such two (`Query.integers_compare_rounded`).
-/

namespace Gatehouse

namespace Query

/-- What the constraints with an operand tell about a document, and an ascending sort key about it and another, is what
holds of two integers. -/
structure Tells (path : String) (operand : Scalar) (d d' : Json) (a b : Int) : Prop where
  eq : (Predicate.field path (.eq operand)).holds d = true ↔ a = b
  ne : (Predicate.field path (.ne operand)).holds d = true ↔ a ≠ b
  gt : (Predicate.field path (.gt operand)).holds d = true ↔ a > b
  gte : (Predicate.field path (.gte operand)).holds d = true ↔ a ≥ b
  lt : (Predicate.field path (.lt operand)).holds d = true ↔ a < b
  lte : (Predicate.field path (.lte operand)).holds d = true ↔ a ≤ b
  oneOf : (Predicate.field path (.oneOf [operand])).holds d = true ↔ a = b
  noneOf : (Predicate.field path (.noneOf [operand])).holds d = true ↔ a ≠ b
  sorted : SortKey.compareDocs ⟨path, .ascending⟩ d d' = compare a b

variable {path : String} {operand : Scalar} {d d' : Json} {a b : Int}

/-- **Integers are told apart as their doubles are.** -/
theorem tells_rounded (hoperand : Scalar.ofJson? (.ofInt b) = some operand) (hd : d.lookup path = some (.ofInt a))
    (hd' : d'.lookup path = some (.ofInt b)) :
    Tells path operand d d' (Double.rounded a) (Double.rounded b) := by
  obtain rfl : Scalar.number (.int b) = operand := Option.some.inj hoperand
  have hcmp : (Scalar.number (.int b)).compareWith (.ofInt a) =
      some (compare (Double.rounded a) (Double.rounded b)) := by
    rw [← Number.cmp_int]
    rfl
  have hequals : (Scalar.number (.int b)).equals (some (.ofInt a)) = true ↔ Double.rounded a = Double.rounded b := by
    change decide ((Scalar.number (.int b)).compareWith (.ofInt a) = some .eq) = true ↔ _
    rw [hcmp, decide_eq_true_iff, Option.some_inj, compare_eq_iff_eq]
  have hordered (accept : Ordering → Bool) : (Scalar.number (.int b)).ordered accept (some (.ofInt a)) =
      accept (compare (Double.rounded a) (Double.rounded b)) := by
    change ((Scalar.number (.int b)).compareWith (.ofInt a)).any accept = _
    rw [hcmp, Option.any_some]
  constructor
  case sorted =>
    rw [SortKey.compareDocs, hd, hd', ← Number.cmp_int]
    rfl
  all_goals rw [Predicate.holds_field, hd, Constraint.holds]
  case eq => exact hequals
  case ne => simp [← hequals]
  case oneOf => simp [← hequals]
  case noneOf => simp [← hequals]
  case gt => simp [hordered, compare_gt_iff_gt]
  case gte => simp [hordered, compare_lt_iff_lt]
  case lt => simp [hordered, compare_lt_iff_lt]
  case lte => simp [hordered, compare_gt_iff_gt]

/-- Integers in the same order tell the same. -/
theorem Tells.congr {x y : Int} (h : Tells path operand d d' x y) (hlt : x < y ↔ a < b) (heq : x = y ↔ a = b) :
    Tells path operand d d' a b where
  eq := h.eq.trans heq
  ne := h.ne.trans (not_congr heq)
  gt := h.gt.trans (by omega)
  gte := h.gte.trans (by omega)
  lt := h.lt.trans hlt
  lte := h.lte.trans (by omega)
  oneOf := h.oneOf.trans heq
  noneOf := h.noneOf.trans (not_congr heq)
  sorted := by
    rw [h.sorted]
    rcases lt_trichotomy x y with hxy | hxy | hxy
    · rw [compare_lt_iff_lt.mpr hxy, compare_lt_iff_lt.mpr (hlt.mp hxy)]
    · rw [compare_eq_iff_eq.mpr hxy, compare_eq_iff_eq.mpr (heq.mp hxy)]
    · rw [compare_gt_iff_gt.mpr hxy, compare_gt_iff_gt.mpr (by omega)]

/-- Different doubles are in the order of their integers. -/
theorem rounded_lt_iff (h : a = b ∨ Double.rounded a ≠ Double.rounded b) :
    Double.rounded a < Double.rounded b ↔ a < b := by
  constructor
  · intro hlt
    by_contra hle
    have hround : Double.rounded b ≤ Double.rounded a := Double.rounded_mono (by omega)
    omega
  · intro hlt
    have hround : Double.rounded a ≤ Double.rounded b := Double.rounded_mono (by omega)
    omega

/-- **Integers compare exactly, unless two have one nearest double.** A document with an integer `a` at a path is
compared with the operand of an integer `b`, and by an ascending sort key with a document that holds `b`. All
constraints and the sort key tell what holds of the two integers rounded to doubles. That is what holds of the integers
themselves exactly if they are equal or rounded to different doubles, as two of at most `2 ^ 53` are; and rounding never
turns two round. -/
theorem integers_compare_rounded (hoperand : Scalar.ofJson? (.ofInt b) = some operand)
    (hd : d.lookup path = some (.ofInt a)) (hd' : d'.lookup path = some (.ofInt b)) :
    Tells path operand d d' (Double.rounded a) (Double.rounded b) ∧
    (Tells path operand d d' a b ↔ a = b ∨ Double.rounded a ≠ Double.rounded b) ∧
    (a ≤ b → Double.rounded a ≤ Double.rounded b) ∧
    (a.natAbs ≤ 2 ^ 53 → b.natAbs ≤ 2 ^ 53 → Tells path operand d d' a b) := by
  have hrounded := tells_rounded hoperand hd hd'
  have hexact : Tells path operand d d' a b ↔ a = b ∨ Double.rounded a ≠ Double.rounded b := by
    constructor
    · intro htells
      have heq : a = b ↔ Double.rounded a = Double.rounded b := htells.eq.symm.trans hrounded.eq
      omega
    · intro hapart
      refine hrounded.congr (rounded_lt_iff hapart) ?_
      constructor
      · intro heq
        exact hapart.resolve_right fun hne => hne heq
      · rintro rfl
        rfl
  refine ⟨hrounded, hexact, Double.rounded_mono, ?_⟩
  intro ha hb
  rw [hexact, Double.rounded_of_le ha, Double.rounded_of_le hb]
  exact eq_or_ne a b

/-- A document with one number. -/
def sampleWithNumber (n : Int) : Json := .object [("n", .ofInt n)]

theorem lookup_sampleWithNumber (n : Int) : (sampleWithNumber n).lookup "n" = some (.ofInt n) := rfl

/-- Two integers far beyond `2 ^ 53` with different nearest doubles are compared exactly. -/
theorem sample_integers_compare_rounded :
    Scalar.ofJson? (.ofInt 18446744073709549568) = some (.number (.int 18446744073709549568)) ∧
    (sampleWithNumber 18446744073709551615).lookup "n" = some (.ofInt 18446744073709551615) ∧
    (sampleWithNumber 18446744073709549568).lookup "n" = some (.ofInt 18446744073709549568) ∧
    Tells "n" (.number (.int 18446744073709549568)) (sampleWithNumber 18446744073709551615)
      (sampleWithNumber 18446744073709549568) 18446744073709551615 18446744073709549568 := by
  obtain ⟨-, hexact, -⟩ := integers_compare_rounded (b := 18446744073709549568) rfl
    (lookup_sampleWithNumber 18446744073709551615) (lookup_sampleWithNumber 18446744073709549568)
  exact ⟨rfl, rfl, rfl, hexact.mpr (.inr (by decide))⟩

/-- The first integer beyond `2 ^ 53` equals the one before it, for filters and for sort orders. -/
theorem neighbours_count_as_equal :
    (Predicate.field "n" (.eq (.number (.int 9007199254740992)))).holds (sampleWithNumber 9007199254740993) = true ∧
    (Predicate.field "n" (.gt (.number (.int 9007199254740992)))).holds (sampleWithNumber 9007199254740993) = false ∧
    SortKey.compareDocs ⟨"n", .ascending⟩ (sampleWithNumber 9007199254740993) (sampleWithNumber 9007199254740992) =
      .eq := by
  have hoperand : Scalar.ofJson? (.ofInt 9007199254740992) = some (.number (.int 9007199254740992)) := rfl
  have htells := tells_rounded hoperand
    (lookup_sampleWithNumber 9007199254740993) (lookup_sampleWithNumber 9007199254740992)
  have hsame : Double.rounded 9007199254740993 = Double.rounded 9007199254740992 := by decide
  rw [hsame] at htells
  refine ⟨htells.eq.mpr rfl, ?_, ?_⟩
  · rw [← Bool.not_eq_true, htells.gt]
    exact lt_irrefl _
  · rw [htells.sorted, compare_eq_iff_eq]

end Query

end Gatehouse
