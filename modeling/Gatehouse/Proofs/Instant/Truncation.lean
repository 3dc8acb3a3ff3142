import Gatehouse.Filter.Scalar
import Gatehouse.Proofs.Instant.TextOrder
import Gatehouse.Proofs.Text.ByteOrder

/-!
# Instants cut to milliseconds

An instant that is an operand is written with milliseconds. The text tells the second, whether that is a leap second,
and the milliseconds into it, and these are what `Instant.toMillis` keeps (`Instant.toMillis_eq`). So the
text is that of the cut instant (`Instant.renderMillis_toMillis`), it is read back as that, and texts are in the order
of the cut instants, byte by byte (`Instant.compare_renderMillis`, `Scalar.written_instants_read_back`).
-/

namespace Gatehouse

namespace Instant

variable {t u : Instant}

/-- A leap second is kept, and none comes in. -/
theorem nano_toMillis_lt_iff : t.toMillis.nano < nanosPerSecond ↔ t.nano < nanosPerSecond := by
  unfold toMillis nanosPerSecond
  dsimp only
  omega

/-- What is kept is the second, whether it is a leap second, and the whole milliseconds into it. -/
theorem toMillis_eq (t : Instant) : t.toMillis.second = t.second ∧ t.toMillis.leap = t.leap ∧
    t.toMillis.writtenNano = t.writtenNano / 1000000 * 1000000 := by
  refine ⟨rfl, ?_, ?_⟩
  · unfold leap toMillis nanosPerSecond
    dsimp only
    omega
  · simp only [writtenNano, nano_toMillis_lt_iff]
    split
    · rfl
    · unfold toMillis nanosPerSecond
      dsimp only
      omega

theorem WellFormed.toMillis (h : t.WellFormed) : t.toMillis.WellFormed := by
  unfold WellFormed Instant.toMillis nanosPerSecond at *
  dsimp only
  omega

/-- What is cut away is not written. -/
theorem renderMillis_toMillis (t : Instant) : t.toMillis.renderMillis = t.renderMillis := by
  obtain ⟨-, -, hnano⟩ := t.toMillis_eq
  have hwhole : t.toMillis.wholeSeconds = t.wholeSeconds := by
    simp only [wholeSeconds, writtenSecond, nano_toMillis_lt_iff]
    rfl
  rw [renderMillis, renderMillis, hwhole, hnano, Nat.mul_div_cancel _ (by decide)]

theorem toList_renderMillis (t : Instant) : t.renderMillis.toList =
    t.wholeSeconds.toList ++ '.' :: ((padded 3 (t.writtenNano / 1000000)).toList ++ ['Z']) := by
  simp [renderMillis]

/-- **Texts with milliseconds are in the order of the cut instants.** -/
theorem compare_renderMillis (ht : t.WellFormed) (hu : u.WellFormed) (htyear : t.HasFourDigitYear)
    (huyear : u.HasFourDigitYear) : compare t.renderMillis u.renderMillis = t.toMillis.cmp u.toMillis := by
  obtain ⟨htsecond, htleap, htmillis⟩ := t.toMillis_eq
  obtain ⟨husecond, huleap, humillis⟩ := u.toMillis_eq
  obtain ⟨-, htnano⟩ := ht.nano_eq
  obtain ⟨-, hunano⟩ := hu.nano_eq
  unfold nanosPerSecond at htnano hunano
  have hmillis : compare (t.writtenNano / 1000000 * 1000000) (u.writtenNano / 1000000 * 1000000) =
      compare (t.writtenNano / 1000000) (u.writtenNano / 1000000) :=
    compare_congr (by omega) (by omega) (by omega)
  rw [cmp_eq ht.toMillis hu.toMillis, htsecond, husecond, htleap, huleap, htmillis, humillis, hmillis,
    Text.compare_eq, toList_renderMillis, toList_renderMillis, compare_wholeSeconds_append ht hu htyear huyear,
    List.compare_cons_cons, Std.ReflOrd.compare_self, Ordering.eq_then,
    compare_padded_append (by decide) (by omega) (by omega), Std.ReflOrd.compare_self, Ordering.then_eq]

end Instant

namespace Scalar

open Instant (parse?)

/-- A text that is read as an instant is an operand that is written with milliseconds. -/
theorem toJson_of_parse? {s : String} {t : Instant} (h : parse? s = some t) :
    (ofJson? (.string s)).map toJson = some (.object [(dateKey, .string t.renderMillis)]) := by
  rw [ofJson?, h]
  rfl

/-- **What is written for an instant is read back as the instant cut to milliseconds**, if its year has four digits:
in the same second, in a leap second if the instant is in one, and at the same millisecond. Written again it gives the
same text. The texts of two such instants are in the order of the cut instants, byte by byte. -/
theorem written_instants_read_back {s : String} {t : Instant} (h : parse? s = some t) (hyear : t.HasFourDigitYear) :
    (ofJson? (.string s)).map toJson = some (.object [(dateKey, .string t.renderMillis)]) ∧
    parse? t.renderMillis = some t.toMillis ∧
    (t.toMillis.second = t.second ∧ t.toMillis.leap = t.leap ∧
      t.toMillis.writtenNano = t.writtenNano / 1000000 * 1000000) ∧
    (ofJson? (.string t.renderMillis)).map toJson = some (.object [(dateKey, .string t.renderMillis)]) ∧
    ∀ s' t', parse? s' = some t' → t'.HasFourDigitYear →
      compare (Utf8.encode t.renderMillis) (Utf8.encode t'.renderMillis) = t.toMillis.cmp t'.toMillis := by
  have hwf := Instant.wellFormed_of_parse? h
  have hback := Instant.parse?_renderMillis hwf hyear.1 hyear.2
  refine ⟨toJson_of_parse? h, hback, t.toMillis_eq, ?_, ?_⟩
  · rw [toJson_of_parse? hback, Instant.renderMillis_toMillis]
  · intro s' t' h' hyear'
    rw [Utf8.compare_encode]
    exact Instant.compare_renderMillis hwf (Instant.wellFormed_of_parse? h') hyear hyear'

/-- A leap second at the end of a year, told an hour and a half ahead, and midnight after it. -/
theorem sample_written_instants_read_back :
    ∃ t t', parse? "2017-01-01T01:29:60.9999+01:30" = some t ∧ t.HasFourDigitYear ∧
      parse? "2017-01-01" = some t' ∧ t'.HasFourDigitYear ∧
      parse? "2016-12-31T23:59:60.999Z" = some ⟨t.second, 1999000000⟩ ∧
      compare (Utf8.encode t.renderMillis) (Utf8.encode t'.renderMillis) = .lt := by
  have hread : parse? "2017-01-01T01:29:60.9999+01:30" = some ⟨1483228799, 1999900000⟩ := by decide
  have hread' : parse? "2017-01-01" = some ⟨1483228800, 0⟩ := rfl
  obtain ⟨-, hback, -, -, horder⟩ := written_instants_read_back hread (by decide)
  refine ⟨_, _, hread, by decide, hread', by decide, ?_, (horder _ _ hread' (by decide)).trans rfl⟩
  exact (congrArg parse? (by decide)).trans hback

end Scalar

end Gatehouse
