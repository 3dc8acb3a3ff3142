import Mathlib.Algebra.Group.Nat.Defs
import Gatehouse.Instant.Printer
import Gatehouse.Instant.Reader
import Gatehouse.Proofs.Calendar
import Gatehouse.Proofs.Json.Tokens

/-!
# Written instants read back

The text that `renderMillis` writes is read as the same instant, cut to whole milliseconds
(`Instant.parse?_renderMillis`). It takes a year of four digits, and a leap second that ends a minute, as
it does in every instant that is read from a text (`Instant.wellFormed_of_parse?`).
-/

namespace Gatehouse.Instant

/-! ### Digits -/

/-- A run of decimal digits that denotes a number. -/
structure Denotes (ds : List Char) (n : Nat) : Prop where
  digits : ∀ c ∈ ds, c.isDigit = true
  value : ds.foldl (fun acc c => acc * 10 + (c.toNat - '0'.toNat)) 0 = n

theorem digitValue?_of_isDigit {c : Char} (h : c.isDigit = true) :
    digitValue? c = some (c.toNat - '0'.toNat) := by
  have hrange : '0' ≤ c ∧ c ≤ '9' := by
    simp only [Char.isDigit, Bool.and_eq_true, decide_eq_true_eq] at h
    exact h
  rw [digitValue?, if_pos hrange]

/-- Digits are read one after the other, up to the given number. -/
theorem readDigits_append (acc more : Nat) {ds : List Char} (h : ∀ c ∈ ds, c.isDigit = true)
    (rest : List Char) : readDigits acc (ds.length + more) (ds ++ rest) =
      readDigits (ds.foldl (fun acc c => acc * 10 + (c.toNat - '0'.toNat)) acc) more rest := by
  induction ds generalizing acc with
  | nil => rw [List.length_nil, Nat.zero_add, List.nil_append, List.foldl_nil]
  | cons c ds ih =>
    have hc := digitValue?_of_isDigit (h c List.mem_cons_self)
    rw [List.length_cons, Nat.add_right_comm, List.cons_append, readDigits, hc, List.foldl_cons]
    exact ih _ fun c' hc' => h c' (List.mem_cons_of_mem c hc')

/-- Nothing is read where no digit stands. -/
theorem readDigits_of_not_digit (acc most : Nat) {c : Char} (h : digitValue? c = none)
    (rest : List Char) : readDigits acc most (c :: rest) = (acc, c :: rest) := by
  cases most with
  | zero => rfl
  | succ most => rw [readDigits, h]

/-- The digits of a number, after zeros that fill up its width. -/
theorem denotes_padded {width n : Nat} (hwidth : 0 < width) (h : n < 10 ^ width) :
    Denotes (padded width n).toList n ∧ (padded width n).toList.length = width := by
  have hlist : (padded width n).toList =
      List.replicate (width - (Nat.toDigits 10 n).length) '0' ++ Nat.toDigits 10 n := by
    simp [padded, Nat.repr_eq_ofList_toDigits]
  have hlength := (Nat.length_toDigits_le_iff (by decide) hwidth).mpr h
  rw [hlist]
  refine ⟨⟨fun c hc => ?_, ?_⟩, ?_⟩
  · rcases List.mem_append.mp hc with hc | hc
    · rw [List.eq_of_mem_replicate hc]
      rfl
    · exact Nat.isDigit_of_mem_toDigits (by decide) (by decide) hc
  · have hzeros (k : Nat) : (List.replicate k '0').foldl
        (fun acc c => acc * 10 + (c.toNat - '0'.toNat)) 0 = 0 := by
      induction k with
      | zero => rfl
      | succ k ih => exact ih
    have hvalue := Json.foldl_digitValues n
    rw [Json.digitValues, List.foldl_map] at hvalue
    rw [List.foldl_append, hzeros, hvalue]
  · rw [List.length_append, List.length_replicate]
    omega

/-- A number written in full width is read. -/
theorem number?_padded {width n : Nat} (hwidth : 0 < width) (h : n < 10 ^ width) (rest : List Char) :
    number? width width ((padded width n).toList ++ rest) = some (n, rest) := by
  obtain ⟨hdenotes, hlength⟩ := denotes_padded hwidth h
  have hread := readDigits_append 0 0 hdenotes.digits rest
  rw [hlength, hdenotes.value, Nat.add_zero, readDigits] at hread
  rw [number?, hread]
  simp only [List.length_append, hlength, Nat.add_sub_cancel, Nat.lt_irrefl, ↓reduceIte]

/-- A fraction of three digits counts milliseconds. -/
theorem optionalFraction?_padded {n : Nat} (h : n < 1000) {c : Char} (hc : digitValue? c = none)
    (rest : List Char) :
    optionalFraction? ('.' :: ((padded 3 n).toList ++ c :: rest)) = some (n * 1000000, c :: rest) := by
  obtain ⟨hdenotes, hlength⟩ := @denotes_padded 3 n (by decide) h
  have hread := readDigits_append 0 6 hdenotes.digits (c :: rest)
  rw [hlength, hdenotes.value, readDigits_of_not_digit n 6 hc] at hread
  have hnumber : number? 1 9 ((padded 3 n).toList ++ c :: rest) = some (n, c :: rest) := by
    rw [number?, hread]
    simp [hlength]
  rw [optionalFraction?, fraction?, hnumber]
  simp [hlength, hc]

theorem char?_cons_self (c : Char) (cs : List Char) : char? c (c :: cs) = some cs := if_pos rfl

/-- A reader goes on with what was read. -/
theorem bind_of_eq_some {α β : Type} {x : Option α} {a : α} (h : x = some a) (f : α → Option β) :
    (x >>= f) = f a := by
  rw [h]
  rfl

/-- A timestamp in UTC with milliseconds is read. -/
theorem timestamp?_padded {year month day hour minute second millis : Nat} (hyear : year < 10 ^ 4)
    (hmonth : month < 10 ^ 2) (hday : day < 10 ^ 2) (hhour : hour < 10 ^ 2) (hminute : minute < 10 ^ 2)
    (hsecond : second < 10 ^ 2) (hmillis : millis < 1000) :
    timestamp? ((padded 4 year).toList ++ '-' :: ((padded 2 month).toList ++ '-' ::
      ((padded 2 day).toList ++ 'T' :: ((padded 2 hour).toList ++ ':' :: ((padded 2 minute).toList ++ ':' ::
        ((padded 2 second).toList ++ '.' :: ((padded 3 millis).toList ++ ['Z']))))))) =
      ofDateAndTime? ⟨year, month, day⟩ ⟨hour, minute, second, millis * 1000000⟩ := by
  have hpos : 0 < 2 := by decide
  have hdash (cs : List Char) : char? '-' ('-' :: cs) = some cs := char?_cons_self '-' cs
  have hcolon (cs : List Char) : char? ':' (':' :: cs) = some cs := char?_cons_self ':' cs
  have hdivider (cs : List Char) : oneOf? ['T', 't', ' '] ('T' :: cs) = some cs := rfl
  have hoffset : offset? ['Z'] = some (0, []) := rfl
  rw [timestamp?]
  -- the reader part by part, each with the rest of the text as its remainder
  refine (bind_of_eq_some (number?_padded (by decide) hyear _) _).trans ?_
  refine (bind_of_eq_some (hdash _) _).trans ?_
  refine (bind_of_eq_some (number?_padded hpos hmonth _) _).trans ?_
  refine (bind_of_eq_some (hdash _) _).trans ?_
  refine (bind_of_eq_some (number?_padded hpos hday _) _).trans ?_
  refine (bind_of_eq_some (hdivider _) _).trans ?_
  refine (bind_of_eq_some (number?_padded hpos hhour _) _).trans ?_
  refine (bind_of_eq_some (hcolon _) _).trans ?_
  refine (bind_of_eq_some (number?_padded hpos hminute _) _).trans ?_
  refine (bind_of_eq_some (hcolon _) _).trans ?_
  refine (bind_of_eq_some (number?_padded hpos hsecond _) _).trans ?_
  refine (bind_of_eq_some (optionalFraction?_padded hmillis (show digitValue? 'Z' = none by decide) _) _).trans ?_
  refine (bind_of_eq_some hoffset _).trans ?_
  dsimp only [List.isEmpty_nil]
  rw [if_pos rfl]
  simp only [Int.sub_zero]
  exact Option.bind_fun_some _

/-! ### Whole milliseconds -/

/-- The nanoseconds are those of a second, or of a leap second that ends a minute. -/
def WellFormed (t : Instant) : Prop :=
  t.nano < nanosPerSecond ∨ t.second % 60 = 59 ∧ t.nano < 2 * nanosPerSecond

instance (t : Instant) : Decidable t.WellFormed := inferInstanceAs (Decidable (_ ∨ _))

/-- The instant cut to whole milliseconds. -/
def toMillis (t : Instant) : Instant := ⟨t.second, t.nano / 1000000 * 1000000⟩

/-- The instant is one of whole milliseconds. -/
def HasWholeMillis (t : Instant) : Prop := t.nano % 1000000 = 0

instance (t : Instant) : Decidable t.HasWholeMillis := inferInstanceAs (Decidable (_ = _))

theorem toMillis_of_hasWholeMillis {t : Instant} (h : t.HasWholeMillis) : t.toMillis = t := by
  obtain ⟨second, nano⟩ := t
  change nano % 1000000 = 0 at h
  have hnano : nano / 1000000 * 1000000 = nano := by omega
  exact congrArg (Instant.mk second) hnano

/-- The seconds of a day fit it. -/
theorem secondOfDay_lt (t : Instant) : t.secondOfDay < 86400 := by
  unfold secondOfDay secondsPerDay
  omega

/-- Second 60 is the leap second after second 59. -/
theorem ofDateAndTime?_of_lt {d : Date} {c : ClockTime} (hd : d.isValid = true) (hhour : c.hour < 24)
    (hminute : c.minute < 60) (hsecond : c.second ≤ 60) :
    ofDateAndTime? d c = some
      ⟨(ofDate d).second +
          (c.hour * 3600 + c.minute * 60 + if c.second = 60 then 59 else c.second : Nat),
        (if c.second = 60 then nanosPerSecond else 0) + c.nano⟩ := by
  rw [ofDateAndTime?, if_pos (by simp [hd, hhour, hminute, hsecond])]
  by_cases hleap : c.second = 60 <;> simp only [hleap, ↓reduceIte]

/-- The date and the clock time of an instant, cut to milliseconds. -/
theorem ofDateAndTime?_date {t : Instant} (hfirst : Calendar.firstYear ≤ t.date.year)
    (hlast : t.date.year ≤ Calendar.lastYear) (h : t.WellFormed) :
    ofDateAndTime? t.date ⟨t.secondOfDay / 3600, t.secondOfDay / 60 % 60, t.writtenSecond,
      t.writtenNano / 1000000 * 1000000⟩ = some t.toMillis := by
  have hvalid : t.date.isValid = true := Date.isValid_ofDayNumber hfirst hlast
  have hday : (ofDate t.date).second = t.second / 86400 * 86400 := by
    rw [ofDate, date, Date.dayNumber_ofDayNumber]
    rfl
  have hsecond : (t.secondOfDay : Int) = t.second % 86400 := by
    unfold secondOfDay secondsPerDay
    omega
  have hlt := t.secondOfDay_lt
  have hwritten : t.writtenSecond ≤ 60 := by
    unfold writtenSecond
    split <;> omega
  rw [ofDateAndTime?_of_lt hvalid (by dsimp only; omega) (by dsimp only; omega) hwritten, hday, toMillis]
  dsimp only
  unfold WellFormed writtenSecond writtenNano nanosPerSecond at *
  by_cases hnano : t.nano < 1000000000
  · -- an ordinary second is written as it is
    simp only [if_pos hnano, Nat.add_zero]
    have hsecond60 : ¬ t.secondOfDay % 60 = 60 := by omega
    rw [if_neg hsecond60, if_neg hsecond60]
    congr 2 <;> omega
  · -- a leap second is written as second 60
    simp only [if_neg hnano]
    have hsecond59 : t.secondOfDay % 60 + 1 = 60 := by omega
    rw [if_pos hsecond59, if_pos hsecond59]
    congr 2 <;> omega

/-- Years from 0 to 9999 have four digits and no sign. -/
theorem yearText_eq {y : Int} (h : 0 ≤ y) (h' : y ≤ 9999) : yearText y = padded 4 y.toNat := by
  rw [yearText, if_pos (by simp [h, h'])]

/-- **An instant that was written with milliseconds is read back**, cut to them. -/
theorem parse?_renderMillis {t : Instant} (h : t.WellFormed) (hfirst : 0 ≤ t.date.year)
    (hlast : t.date.year ≤ 9999) : parse? t.renderMillis = some t.toMillis := by
  obtain ⟨hmonth, hday⟩ := Date.ofDayNumber_month_day_lt (t.second / secondsPerDay)
  have hlt := t.secondOfDay_lt
  have hsecond : t.writtenSecond < 100 := by
    unfold writtenSecond
    split <;> omega
  have hmillis : t.writtenNano / 1000000 < 1000 := by
    unfold WellFormed writtenNano nanosPerSecond at *
    split <;> omega
  have hyear : ((t.date.year.toNat : Nat) : Int) = t.date.year := Int.toNat_of_nonneg hfirst
  have hread : timestamp? t.renderMillis.toList = some t.toMillis := by
    have hwritten := @timestamp?_padded t.date.year.toNat t.date.month t.date.day (t.secondOfDay / 3600)
      (t.secondOfDay / 60 % 60) t.writtenSecond (t.writtenNano / 1000000) (by omega) hmonth hday
      (by omega) (by omega) hsecond hmillis
    have hdate : Date.mk t.date.year t.date.month t.date.day = t.date := rfl
    rw [hyear, hdate, ofDateAndTime?_date (Int.le_trans (by decide) hfirst)
      (Int.le_trans hlast (by decide)) h] at hwritten
    rw [← hwritten]
    simp [renderMillis, wholeSeconds, yearText_eq hfirst hlast]
  rw [parse?]
  simp only [hread, Option.some_or]

/-! ### What is read is well formed -/

theorem digitValue?_lt {c : Char} {d : Nat} (h : digitValue? c = some d) : d < 10 := by
  rw [digitValue?] at h
  obtain ⟨⟨-, hc⟩, hd⟩ := Option.ite_none_right_eq_some.mp h
  have hle : c.toNat ≤ '9'.toNat := hc
  have hnine : '9'.toNat = 57 := rfl
  have hzero : '0'.toNat = 48 := rfl
  have := Option.some.inj hd
  omega

/-- A number that was read has no more than the digits that were used. -/
theorem readDigits_lt {acc most n : Nat} {cs rest : List Char} (h : readDigits acc most cs = (n, rest)) :
    ∃ k ≤ most, cs.length = rest.length + k ∧ n < (acc + 1) * 10 ^ k := by
  fun_induction readDigits acc most cs with
  | case1 acc cs =>
    obtain ⟨rfl, rfl⟩ := Prod.mk.inj h
    exact ⟨0, Nat.le_refl 0, rfl, by omega⟩
  | case2 acc most =>
    obtain ⟨rfl, rfl⟩ := Prod.mk.inj h
    exact ⟨0, Nat.zero_le _, rfl, by omega⟩
  | case3 acc most c cs d hd ih =>
    obtain ⟨k, hk, hlength, hn⟩ := ih h
    have hd := digitValue?_lt hd
    refine ⟨k + 1, Nat.succ_le_succ hk, ?_, Nat.lt_of_lt_of_le hn ?_⟩
    · rw [List.length_cons, hlength, Nat.add_assoc]
    · rw [Nat.pow_succ, Nat.mul_comm (10 ^ k), ← Nat.mul_assoc]
      exact Nat.mul_le_mul_right _ (by omega)
  | case4 acc most c cs hd =>
    obtain ⟨rfl, rfl⟩ := Prod.mk.inj h
    exact ⟨0, Nat.zero_le _, rfl, by omega⟩

/-- A fraction is less than a second. -/
theorem fraction?_lt {cs rest : List Char} {n : Nat} (h : fraction? cs = some (n, rest)) :
    n < nanosPerSecond := by
  rw [fraction?] at h
  obtain ⟨⟨m, cs'⟩, hnumber, hm⟩ := Option.bind_eq_some_iff.mp h
  obtain ⟨n', rest', hread⟩ : ∃ n' rest', readDigits 0 9 cs = (n', rest') := ⟨_, _, rfl⟩
  rw [number?, hread] at hnumber
  obtain ⟨-, heq⟩ := Option.ite_none_left_eq_some.mp hnumber
  obtain ⟨rfl, rfl⟩ := Prod.mk.inj (Option.some.inj heq)
  obtain ⟨k, hk, hlength, hlt⟩ := readDigits_lt hread
  have hdigits : cs.length - rest'.length = k := by omega
  have hpow : 10 ^ k * 10 ^ (9 - k) = nanosPerSecond := by
    rw [← Nat.pow_add, Nat.add_sub_cancel' hk]
    rfl
  obtain ⟨rfl, -⟩ := Prod.mk.inj (Option.some.inj hm)
  rw [hdigits, ← hpow]
  exact Nat.mul_lt_mul_of_pos_right (by omega) (Nat.pow_pos (by decide))

theorem optionalFraction?_lt {cs rest : List Char} {n : Nat}
    (h : optionalFraction? cs = some (n, rest)) : n < nanosPerSecond := by
  unfold optionalFraction? at h
  split at h
  · exact fraction?_lt h
  · obtain ⟨rfl, -⟩ := Prod.mk.inj (Option.some.inj h)
    decide

/-- A date and a clock time make an instant whose leap second, if it is one, ends a minute. -/
theorem wellFormed_of_ofDateAndTime? {d : Date} {c : ClockTime} {t : Instant}
    (h : ofDateAndTime? d c = some t) (hnano : c.nano < nanosPerSecond) : t.WellFormed := by
  rw [ofDateAndTime?] at h
  unfold nanosPerSecond at hnano
  obtain ⟨-, h⟩ := Option.ite_none_right_eq_some.mp h
  by_cases hleap : c.second = 60
  · simp only [hleap, ↓reduceIte, Option.some.injEq] at h
    obtain rfl := h
    refine .inr ⟨?_, ?_⟩
    · simp only [ofDate, secondsPerDay]
      omega
    · simp only [nanosPerSecond]
      omega
  · simp only [hleap, ↓reduceIte, Option.some.injEq] at h
    obtain rfl := h
    refine .inl ?_
    simp only [nanosPerSecond]
    omega

/-- Offsets are whole minutes. -/
theorem offset?_mod {cs rest : List Char} {o : Int} (h : offset? cs = some (o, rest)) : o % 60 = 0 := by
  cases cs with
  | nil => exact absurd h (by simp [offset?])
  | cons c cs =>
    rw [offset?] at h
    split at h
    · obtain ⟨rfl, -⟩ := Prod.mk.inj (Option.some.inj h)
      rfl
    · obtain ⟨-, h⟩ := Option.ite_none_right_eq_some.mp h
      obtain ⟨⟨hours, cs₁⟩, -, h⟩ := Option.bind_eq_some_iff.mp h
      obtain ⟨cs₂, -, h⟩ := Option.bind_eq_some_iff.mp h
      obtain ⟨⟨minutes, cs₃⟩, -, h⟩ := Option.bind_eq_some_iff.mp h
      obtain ⟨-, h⟩ := Option.ite_none_right_eq_some.mp h
      obtain ⟨rfl, -⟩ := Prod.mk.inj (Option.some.inj h)
      split <;> omega

theorem wellFormed_of_timestamp? {cs : List Char} {t : Instant} (h : timestamp? cs = some t) :
    t.WellFormed := by
  rw [timestamp?] at h
  obtain ⟨⟨year, cs⟩, -, h⟩ := Option.bind_eq_some_iff.mp h
  obtain ⟨cs, -, h⟩ := Option.bind_eq_some_iff.mp h
  obtain ⟨⟨month, cs⟩, -, h⟩ := Option.bind_eq_some_iff.mp h
  obtain ⟨cs, -, h⟩ := Option.bind_eq_some_iff.mp h
  obtain ⟨⟨day, cs⟩, -, h⟩ := Option.bind_eq_some_iff.mp h
  obtain ⟨cs, -, h⟩ := Option.bind_eq_some_iff.mp h
  obtain ⟨⟨hour, cs⟩, -, h⟩ := Option.bind_eq_some_iff.mp h
  obtain ⟨cs, -, h⟩ := Option.bind_eq_some_iff.mp h
  obtain ⟨⟨minute, cs⟩, -, h⟩ := Option.bind_eq_some_iff.mp h
  obtain ⟨cs, -, h⟩ := Option.bind_eq_some_iff.mp h
  obtain ⟨⟨second, cs⟩, -, h⟩ := Option.bind_eq_some_iff.mp h
  obtain ⟨⟨nano, cs⟩, hnano, h⟩ := Option.bind_eq_some_iff.mp h
  obtain ⟨⟨offset, cs⟩, hoffset, h⟩ := Option.bind_eq_some_iff.mp h
  obtain ⟨-, h⟩ := Option.ite_none_right_eq_some.mp h
  obtain ⟨u, hu, h⟩ := Option.bind_eq_some_iff.mp h
  obtain rfl := Option.some.inj h
  have hoffset := offset?_mod hoffset
  refine (wellFormed_of_ofDateAndTime? hu (optionalFraction?_lt hnano)).imp id fun hleap => ?_
  exact ⟨by have := hleap.1; simp only; omega, hleap.2⟩

theorem wellFormed_of_localTime? {cs : List Char} {t : Instant} (h : localTime? cs = some t) :
    t.WellFormed := by
  rw [localTime?] at h
  obtain ⟨⟨date, cs⟩, -, h⟩ := Option.bind_eq_some_iff.mp h
  obtain ⟨cs, -, h⟩ := Option.bind_eq_some_iff.mp h
  obtain ⟨⟨hour, cs⟩, -, h⟩ := Option.bind_eq_some_iff.mp h
  obtain ⟨cs, -, h⟩ := Option.bind_eq_some_iff.mp h
  obtain ⟨⟨minute, cs⟩, -, h⟩ := Option.bind_eq_some_iff.mp h
  obtain ⟨cs, -, h⟩ := Option.bind_eq_some_iff.mp h
  obtain ⟨⟨second, cs⟩, -, h⟩ := Option.bind_eq_some_iff.mp h
  obtain ⟨⟨nano, cs⟩, hnano, h⟩ := Option.bind_eq_some_iff.mp h
  obtain ⟨-, h⟩ := Option.ite_none_right_eq_some.mp h
  exact wellFormed_of_ofDateAndTime? h (optionalFraction?_lt hnano)

theorem wellFormed_of_midnight? {cs : List Char} {t : Instant} (h : midnight? cs = some t) :
    t.WellFormed := by
  rw [midnight?] at h
  obtain ⟨⟨date, cs⟩, -, h⟩ := Option.bind_eq_some_iff.mp h
  obtain ⟨-, h⟩ := Option.ite_none_right_eq_some.mp h
  obtain rfl := Option.some.inj h
  exact .inl (show 0 < nanosPerSecond by decide)

/-- **An instant that was read is well formed.** -/
theorem wellFormed_of_parse? {text : String} {t : Instant} (h : parse? text = some t) :
    t.WellFormed := by
  rcases Option.or_eq_some_iff.mp h with h | ⟨-, h⟩
  · exact wellFormed_of_timestamp? h
  · rcases Option.or_eq_some_iff.mp h with h | ⟨-, h⟩
    · exact wellFormed_of_localTime? h
    · exact wellFormed_of_midnight? h

end Gatehouse.Instant
