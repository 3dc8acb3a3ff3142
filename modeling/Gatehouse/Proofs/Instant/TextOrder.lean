import Gatehouse.Proofs.Instant.RoundTrip
import Gatehouse.Proofs.Text.Order

/-!
# The order of written instants

Instants are written largest unit first and in fixed widths, so up to the whole second their texts are in the
order of time (`Instant.compare_wholeSeconds_append`). The fraction is written in as few digits as are exact, and
the letter that ends it comes after every digit, while the point that begins one comes before that letter. So an
instant is written as if it came after all those that begin with the same digits and have more of them
(`Instant.compare_render_of_isCutOf`), and these are the only instants whose texts are out of order
(`Instant.compare_render`).
-/

namespace Gatehouse.Instant

open Text (compare_append compare_char)

/-! ### Digits -/

theorem toNat_of_isDigit {c : Char} (h : c.isDigit = true) : '0'.toNat ≤ c.toNat ∧ c.toNat ≤ '9'.toNat := by
  simp only [Char.isDigit, Bool.and_eq_true, decide_eq_true_eq] at h
  exact h

/-- Digits compare as the numbers that they are read as. -/
theorem compare_digit {d e : Char} (hd : d.isDigit = true) (he : e.isDigit = true) :
    compare (d.toNat - '0'.toNat) (e.toNat - '0'.toNat) = compare d e := by
  have hd := toNat_of_isDigit hd
  have he := toNat_of_isDigit he
  rw [compare_char]
  exact compare_congr (by omega) (by omega) (by omega)

/-- Digits of one length compare as the numbers that they are read as. -/
theorem compare_digits {ds es : List Char} (hds : ∀ c ∈ ds, c.isDigit = true)
    (hes : ∀ c ∈ es, c.isDigit = true) (hlength : ds.length = es.length) (m n : Nat) :
    compare (ds.foldl (fun acc c => acc * 10 + (c.toNat - '0'.toNat)) m)
        (es.foldl (fun acc c => acc * 10 + (c.toNat - '0'.toNat)) n) =
      (compare m n).then (compare ds es) := by
  induction ds generalizing es m n with
  | nil =>
    obtain rfl := List.eq_nil_of_length_eq_zero hlength.symm
    exact Ordering.then_eq.symm
  | cons d ds ih =>
    obtain ⟨e, es, rfl⟩ := List.exists_cons_of_length_eq_add_one hlength.symm
    obtain ⟨hd, hds⟩ := List.forall_mem_cons.mp hds
    obtain ⟨he, hes⟩ := List.forall_mem_cons.mp hes
    have hd_lt := digitValue?_lt (digitValue?_of_isDigit hd)
    have he_lt := digitValue?_lt (digitValue?_of_isDigit he)
    rw [List.foldl_cons, List.foldl_cons, ih hds hes (Nat.succ.inj hlength), compare_mul_add hd_lt he_lt,
      compare_digit hd he, List.compare_cons_cons, Ordering.then_assoc]

namespace Denotes

variable {ds es : List Char} {m n : Nat}

theorem compare_eq (hds : Denotes ds m) (hes : Denotes es n) (hlength : ds.length = es.length) :
    compare ds es = compare m n := by
  rw [← hds.value, ← hes.value, compare_digits hds.digits hes.digits hlength]
  rfl

/-- A number has one text in each width. -/
theorem unique (hds : Denotes ds n) (hes : Denotes es n) (hlength : ds.length = es.length) : ds = es := by
  have heq := hds.compare_eq hes hlength
  rw [Nat.compare_eq_eq.mpr rfl] at heq
  exact Std.LawfulEqOrd.eq_of_compare heq

/-- Digits after digits. -/
theorem append (hds : Denotes ds m) (hes : Denotes es n) : Denotes (ds ++ es) (m * 10 ^ es.length + n) where
  digits c hc := (List.mem_append.mp hc).elim (hds.digits c) (hes.digits c)
  value := by
    have hshift (acc : Nat) (cs : List Char) :
        cs.foldl (fun acc c => acc * 10 + (c.toNat - '0'.toNat)) acc =
          acc * 10 ^ cs.length + cs.foldl (fun acc c => acc * 10 + (c.toNat - '0'.toNat)) 0 := by
      induction cs generalizing acc with
      | nil => simp
      | cons c cs ih =>
        rw [List.foldl_cons, List.foldl_cons, ih, ih (0 * 10 + _), List.length_cons, Nat.pow_succ', Nat.zero_mul,
          Nat.zero_add, Nat.add_mul, Nat.mul_assoc, Nat.add_assoc]
    rw [List.foldl_append, hds.value, hshift, hes.value]

end Denotes

/-- A number in many digits is its leading part and the rest. -/
theorem padded_add {width more n : Nat} (hwidth : 0 < width) (hmore : 0 < more) (h : n < 10 ^ (width + more)) :
    (padded (width + more) n).toList =
      (padded width (n / 10 ^ more)).toList ++ (padded more (n % 10 ^ more)).toList := by
  have hhigh : n / 10 ^ more < 10 ^ width := Nat.div_lt_of_lt_mul (by rwa [← Nat.pow_add'])
  obtain ⟨hall, hlength⟩ := denotes_padded (by omega) h
  obtain ⟨hleading, hleading_length⟩ := denotes_padded hwidth hhigh
  obtain ⟨hrest, hrest_length⟩ := denotes_padded hmore (Nat.mod_lt n (Nat.pow_pos (by decide)))
  have hparts := hleading.append hrest
  rw [hrest_length, Nat.div_add_mod'] at hparts
  exact hall.unique hparts (by rw [List.length_append]; omega)

/-- What comes after two numbers in one width decides where they are equal. -/
theorem compare_padded_append {width m n : Nat} (hwidth : 0 < width) (hm : m < 10 ^ width) (hn : n < 10 ^ width)
    (xs ys : List Char) : compare ((padded width m).toList ++ xs) ((padded width n).toList ++ ys) =
      (compare m n).then (compare xs ys) := by
  obtain ⟨hdigits, hlength⟩ := denotes_padded hwidth hm
  obtain ⟨hdigits', hlength'⟩ := denotes_padded hwidth hn
  have hsame := hlength.trans hlength'.symm
  rw [compare_append hsame, hdigits.compare_eq hdigits' hsame]

/-! ### Fractions -/

/-- How many digits of the second are written. -/
def fractionDigits (nano : Nat) : Nat :=
  if nano = 0 then 0 else if nano % 1000000 = 0 then 3 else if nano % 1000 = 0 then 6 else 9

/-- The nanoseconds that the last digit counts. -/
def grain (nano : Nat) : Nat := 10 ^ (9 - fractionDigits nano)

/-- What is written after the whole seconds. -/
def fractionText (nano : Nat) : List Char :=
  if nano = 0 then ['Z'] else '.' :: ((padded (fractionDigits nano) (nano / grain nano)).toList ++ ['Z'])

theorem toList_render (t : Instant) : t.render.toList = t.wholeSeconds.toList ++ fractionText t.writtenNano := by
  rw [render, fractionText, grain, fractionDigits]
  by_cases hzero : t.writtenNano = 0
  · simp [hzero]
  by_cases hmillis : t.writtenNano % 1000000 = 0
  · simp [hzero, hmillis, renderMillis]
  by_cases hmicros : t.writtenNano % 1000 = 0
  · simp [hzero, hmillis, hmicros]
  · simp [hzero, hmillis, hmicros, renderNanos]

/-- A whole number of grains is written, of the grains that make up a second. -/
theorem fractionDigits_spec (nano : Nat) : fractionDigits nano ≤ 9 ∧
    grain nano * 10 ^ fractionDigits nano = nanosPerSecond ∧ grain nano ∣ nano := by
  rw [grain, fractionDigits]
  by_cases hzero : nano = 0
  · simp [hzero, nanosPerSecond]
  by_cases hmillis : nano % 1000000 = 0
  · simp [hzero, hmillis, nanosPerSecond, Nat.dvd_of_mod_eq_zero hmillis]
  by_cases hmicros : nano % 1000 = 0
  · simp [hzero, hmillis, hmicros, nanosPerSecond, Nat.dvd_of_mod_eq_zero hmicros]
  · simp [hzero, hmillis, hmicros, nanosPerSecond]

theorem grain_pos (nano : Nat) : 0 < grain nano := Nat.pow_pos (by decide)

theorem fractionDigits_eq_zero_iff {nano : Nat} : fractionDigits nano = 0 ↔ nano = 0 := by
  rw [fractionDigits]
  split
  next hzero => exact iff_of_true rfl hzero
  next hpos =>
    refine iff_of_false ?_ hpos
    split
    · decide
    · split <;> decide

theorem written_lt {nano : Nat} (h : nano < nanosPerSecond) : nano / grain nano < 10 ^ fractionDigits nano := by
  obtain ⟨-, hmake_up, -⟩ := fractionDigits_spec nano
  exact Nat.div_lt_of_lt_mul (hmake_up.symm ▸ h)

theorem fractionText_of_pos {nano : Nat} (h : 0 < fractionDigits nano) :
    fractionText nano = '.' :: ((padded (fractionDigits nano) (nano / grain nano)).toList ++ ['Z']) :=
  if_neg (mt fractionDigits_eq_zero_iff.mpr (Nat.ne_of_gt h))

variable {n m : Nat}

/-- Fractions in one number of digits are in the order of the nanoseconds. -/
theorem compare_fractionText_of_eq (hn : n < nanosPerSecond) (hm : m < nanosPerSecond)
    (hdigits : fractionDigits n = fractionDigits m) :
    compare (fractionText n) (fractionText m) = compare n m := by
  obtain ⟨-, -, hn_grains⟩ := fractionDigits_spec n
  obtain ⟨-, -, hm_grains⟩ := fractionDigits_spec m
  have hgrain : grain m = grain n := by rw [grain, grain, hdigits]
  rcases Nat.eq_zero_or_pos (fractionDigits n) with hzero | hpos
  · obtain rfl := fractionDigits_eq_zero_iff.mp hzero
    obtain rfl := fractionDigits_eq_zero_iff.mp (hdigits.symm.trans hzero)
    rfl
  · have hm_lt := written_lt hm
    rw [hgrain] at hm_grains hm_lt
    rw [fractionText_of_pos hpos, fractionText_of_pos (hdigits ▸ hpos), List.compare_cons_cons, ← hdigits,
      hgrain, compare_padded_append hpos (written_lt hn) (hdigits ▸ hm_lt)]
    calc (compare '.' '.').then ((compare (n / grain n) (m / grain n)).then (compare ['Z'] ['Z']))
        = (compare (n / grain n) (m / grain n)).then (compare 0 0) := rfl
      _ = compare (n / grain n * grain n + 0) (m / grain n * grain n + 0) :=
          (compare_mul_add (grain_pos n) (grain_pos n)).symm
      _ = compare n m := by
          rw [Nat.add_zero, Nat.add_zero, Nat.div_mul_cancel hn_grains, Nat.div_mul_cancel hm_grains]

/-- The letter after the digits comes after further digits. -/
theorem compare_end_digits {ds : List Char} (hds : ∀ c ∈ ds, c.isDigit = true) (hpos : 0 < ds.length)
    (xs : List Char) : compare ['Z'] (ds ++ xs) = .gt := by
  cases ds with
  | nil => exact absurd hpos (Nat.lt_irrefl 0)
  | cons d ds =>
    obtain ⟨-, hnine⟩ := toNat_of_isDigit (hds d List.mem_cons_self)
    have hlast : compare 'Z' d = .gt := by
      rw [compare_char]
      exact Nat.compare_eq_gt.mpr (Nat.lt_of_le_of_lt hnine (by decide))
    rw [List.cons_append, List.compare_cons_cons, hlast]
    rfl

/-- A fraction in fewer digits comes after those in more digits that begin with the same. -/
theorem compare_fractionText_of_lt (hn : n < nanosPerSecond) (hm : m < nanosPerSecond)
    (hdigits : fractionDigits n < fractionDigits m) :
    compare (fractionText n) (fractionText m) = (compare (n / grain n) (m / grain n)).then .gt := by
  rw [fractionText_of_pos (Nat.zero_lt_of_lt hdigits)]
  rcases Nat.eq_zero_or_pos (fractionDigits n) with hzero | hpos
  · obtain rfl := fractionDigits_eq_zero_iff.mp hzero
    have hm_grain : m / grain 0 = 0 := Nat.div_eq_of_lt hm
    rw [hm_grain]
    rfl
  -- the longer fraction is cut after as many digits as the shorter one has
  obtain ⟨more, hmore⟩ := Nat.exists_eq_add_of_le (Nat.le_of_lt hdigits)
  have hmore_pos : 0 < more := by omega
  obtain ⟨hle, -, -⟩ := fractionDigits_spec m
  obtain ⟨-, hmake_up, -⟩ := fractionDigits_spec n
  have hgrain : grain m * 10 ^ more = grain n := by
    rw [grain, grain, ← Nat.pow_add]
    congr 1
    omega
  have hm_lt := written_lt hm
  rw [hmore] at hm_lt
  have hm_written : m / grain n < 10 ^ fractionDigits n := Nat.div_lt_of_lt_mul (hmake_up.symm ▸ hm)
  obtain ⟨hrest, hlength⟩ := denotes_padded hmore_pos (Nat.mod_lt (m / grain m) (Nat.pow_pos (by decide)))
  have hend := compare_end_digits hrest.digits (by omega) ['Z']
  rw [fractionText_of_pos hpos, List.compare_cons_cons, hmore, padded_add hpos hmore_pos hm_lt, List.append_assoc,
    Nat.div_div_eq_div_mul, hgrain, compare_padded_append hpos (written_lt hn) hm_written, hend]
  exact Ordering.eq_then

/-- Nanoseconds are later ones cut to the digits that are written: the later ones fall within the last digit. -/
def IsCut (n m : Nat) : Prop := n < m ∧ m < n + grain n

/-- What is cut has fewer digits. -/
theorem IsCut.fractionDigits_lt (h : IsCut n m) : fractionDigits n < fractionDigits m := by
  obtain ⟨hlt, hclose⟩ := h
  refine Nat.lt_of_not_le ?_
  intro hle
  obtain ⟨-, -, hn_grains⟩ := fractionDigits_spec n
  obtain ⟨-, -, hm_grains⟩ := fractionDigits_spec m
  have hcoarser : grain n ∣ grain m := Nat.pow_dvd_pow 10 (by omega)
  have hgap : grain n ∣ m - n := Nat.dvd_sub (Nat.dvd_trans hcoarser hm_grains) hn_grains
  have := Nat.le_of_dvd (by omega) hgap
  omega

/-- Nanoseconds are cut from later ones exactly if these begin with the digits that they are written in. -/
theorem isCut_iff_of_fractionDigits_lt (h : fractionDigits n < fractionDigits m) :
    IsCut n m ↔ n / grain n = m / grain n := by
  obtain ⟨-, -, hn_grains⟩ := fractionDigits_spec n
  have hn := Nat.mul_div_cancel' hn_grains
  have hm := Nat.div_add_mod m (grain n)
  have hrest := Nat.mod_lt m (grain_pos n)
  have hne : n ≠ m := fun heq => Nat.lt_irrefl _ (heq ▸ h)
  constructor
  · rintro ⟨hlt, hclose⟩
    refine (Nat.div_eq_of_lt_le ?_ ?_).symm
    · rw [Nat.mul_comm]
      omega
    · rw [Nat.succ_mul, Nat.mul_comm]
      omega
  · intro heq
    rw [← heq] at hm
    exact ⟨by omega, by omega⟩

/-- Nanoseconds that are cut from later ones are written as if they came after them. -/
theorem compare_fractionText_of_isCut (hn : n < nanosPerSecond) (hm : m < nanosPerSecond) (h : IsCut n m) :
    compare (fractionText n) (fractionText m) = .gt := by
  have hfewer := h.fractionDigits_lt
  have hsame := (isCut_iff_of_fractionDigits_lt hfewer).mp h
  rw [compare_fractionText_of_lt hn hm hfewer, Nat.compare_eq_eq.mpr hsame]
  rfl

/-- All other fractions are in the order of the nanoseconds. -/
theorem compare_fractionText_of_not_isCut (hn : n < nanosPerSecond) (hm : m < nanosPerSecond) (h : ¬ IsCut n m)
    (h' : ¬ IsCut m n) : compare (fractionText n) (fractionText m) = compare n m := by
  have hfewer {n m : Nat} (hn : n < nanosPerSecond) (hm : m < nanosPerSecond) (h : ¬ IsCut n m)
      (hfewer : fractionDigits n < fractionDigits m) :
      compare (fractionText n) (fractionText m) = compare n m := by
    rw [compare_fractionText_of_lt hn hm hfewer]
    apply compare_then
    · intro hlt
      exact Nat.compare_eq_lt.mpr (Nat.lt_of_div_lt_div hlt)
    · intro hgt
      exact Nat.compare_eq_gt.mpr (Nat.lt_of_div_lt_div hgt)
    · intro heq
      exact absurd ((isCut_iff_of_fractionDigits_lt hfewer).mpr heq) h
  rcases Nat.lt_trichotomy (fractionDigits n) (fractionDigits m) with hlt | heq | hgt
  · exact hfewer hn hm h hlt
  · exact compare_fractionText_of_eq hn hm heq
  · rw [Std.OrientedOrd.eq_swap, hfewer hm hn h' hgt, ← Std.OrientedOrd.eq_swap]

/-! ### Whole seconds -/

/-- The leap seconds that have begun: one in a leap second, and none else. -/
def leap (t : Instant) : Nat := t.nano / nanosPerSecond

/-- The instant falls in a year that is written in four digits. -/
def HasFourDigitYear (t : Instant) : Prop := 0 ≤ t.date.year ∧ t.date.year ≤ 9999

instance (t : Instant) : Decidable t.HasFourDigitYear := inferInstanceAs (Decidable (_ ∧ _))

/-- A well formed instant is in at most one leap second, which ends a minute. -/
theorem WellFormed.leap_le {t : Instant} (h : t.WellFormed) :
    t.leap ≤ 1 ∧ (t.leap = 1 → t.secondOfDay % 60 = 59) := by
  unfold WellFormed leap secondOfDay secondsPerDay nanosPerSecond at *
  omega

/-- The leap second and the rest make up the nanoseconds. -/
theorem WellFormed.nano_eq {t : Instant} (h : t.WellFormed) :
    t.nano = t.leap * nanosPerSecond + t.writtenNano ∧ t.writtenNano < nanosPerSecond := by
  unfold WellFormed leap writtenNano nanosPerSecond at *
  split <;> omega

theorem WellFormed.writtenSecond_eq {t : Instant} (h : t.WellFormed) :
    t.writtenSecond = t.secondOfDay % 60 + t.leap := by
  unfold WellFormed leap writtenSecond nanosPerSecond at *
  split <;> omega

theorem toList_wholeSeconds {t : Instant} (h : t.HasFourDigitYear) :
    t.wholeSeconds.toList = (padded 4 t.date.year.toNat).toList ++ '-' :: ((padded 2 t.date.month).toList ++
      '-' :: ((padded 2 t.date.day).toList ++ 'T' :: ((padded 2 (t.secondOfDay / 3600)).toList ++
        ':' :: ((padded 2 (t.secondOfDay / 60 % 60)).toList ++ ':' :: (padded 2 t.writtenSecond).toList)))) := by
  simp [wholeSeconds, yearText_eq h.1 h.2]

variable {t u : Instant}

/-- Dates in four-digit years are in the order of their days. -/
theorem compare_date (ht : t.HasFourDigitYear) (hu : u.HasFourDigitYear) :
    (compare t.date.year.toNat u.date.year.toNat).then
        ((compare t.date.month u.date.month).then (compare t.date.day u.date.day)) =
      compare (t.second / secondsPerDay) (u.second / secondsPerDay) := by
  have htyear := Int.toNat_of_nonneg ht.1
  have huyear := Int.toNat_of_nonneg hu.1
  have hlt {t u : Instant} (h : t.date.Before u.date) :
      compare (t.second / secondsPerDay) (u.second / secondsPerDay) = .lt :=
    Int.compare_eq_lt.mpr (Date.lt_of_ofDayNumber_before h)
  have hgt {t u : Instant} (h : u.date.Before t.date) :
      compare (t.second / secondsPerDay) (u.second / secondsPerDay) = .gt :=
    Int.compare_eq_gt.mpr (Date.lt_of_ofDayNumber_before h)
  refine compare_then (fun h => hlt (.inl (by omega))) (fun h => hgt (.inl (by omega))) ?_
  intro hyears
  have hyear : t.date.year = u.date.year := by omega
  refine compare_then (fun h => hlt (.inr ⟨hyear, .inl h⟩)) (fun h => hgt (.inr ⟨hyear.symm, .inl h⟩)) ?_
  intro hmonth
  rw [← Ordering.then_eq (o := compare t.date.day _)]
  refine compare_then (fun h => hlt (.inr ⟨hyear, .inr ⟨hmonth, h⟩⟩))
    (fun h => hgt (.inr ⟨hyear.symm, .inr ⟨hmonth.symm, h⟩⟩)) ?_
  intro hday
  have hdate : t.date = u.date := by
    calc t.date = ⟨t.date.year, t.date.month, t.date.day⟩ := rfl
      _ = ⟨u.date.year, u.date.month, u.date.day⟩ := by rw [hyear, hmonth, hday]
  have hdays := congrArg Date.dayNumber hdate
  rw [date, date, Date.dayNumber_ofDayNumber, Date.dayNumber_ofDayNumber] at hdays
  exact (Int.compare_eq_eq.mpr hdays).symm

/-- Times of day are in the order of the seconds, with a leap second after the second before it. -/
theorem compare_timeOfDay (ht : t.WellFormed) (hu : u.WellFormed) :
    (compare (t.secondOfDay / 3600) (u.secondOfDay / 3600)).then
        ((compare (t.secondOfDay / 60 % 60) (u.secondOfDay / 60 % 60)).then
          (compare t.writtenSecond u.writtenSecond)) =
      (compare t.secondOfDay u.secondOfDay).then (compare t.leap u.leap) := by
  obtain ⟨htleap, htends⟩ := ht.leap_le
  obtain ⟨huleap, huends⟩ := hu.leap_le
  have hseconds : compare t.writtenSecond u.writtenSecond =
      (compare (t.secondOfDay % 60) (u.secondOfDay % 60)).then (compare t.leap u.leap) := by
    rw [ht.writtenSecond_eq, hu.writtenSecond_eq]
    symm
    apply compare_then
    · intro hlt
      exact Nat.compare_eq_lt.mpr (by omega)
    · intro hgt
      exact Nat.compare_eq_gt.mpr (by omega)
    · intro heq
      exact compare_congr (by omega) (by omega) (by omega)
  have hhour (s : Nat) : s / 60 / 60 = s / 3600 := Nat.div_div_eq_div_mul s 60 60
  rw [compare_div_mod (k := 60) (by decide) t.secondOfDay,
    compare_div_mod (k := 60) (by decide) (t.secondOfDay / 60), hseconds, hhour, hhour,
    Ordering.then_assoc, Ordering.then_assoc]

/-- Seconds are in the order of the days, and then of the seconds of the day. -/
theorem compare_second (t u : Instant) :
    (compare (t.second / secondsPerDay) (u.second / secondsPerDay)).then (compare t.secondOfDay u.secondOfDay) =
      compare t.second u.second := by
  have ht := Int.emod_nonneg t.second (b := secondsPerDay) (by decide)
  rw [secondOfDay, secondOfDay]
  unfold secondsPerDay
  rcases Int.lt_trichotomy (t.second / 86400) (u.second / 86400) with h | h | h
  · rw [Int.compare_eq_lt.mpr h, Int.compare_eq_lt.mpr (by omega)]
    rfl
  · rw [Int.compare_eq_eq.mpr h, Ordering.eq_then, ← Ordering.then_eq (o := compare (Int.toNat _) _)]
    apply compare_then
    · intro hlt
      exact Int.compare_eq_lt.mpr (by omega)
    · intro hgt
      exact Int.compare_eq_gt.mpr (by omega)
    · intro heq
      exact (Int.compare_eq_eq.mpr (by omega)).symm
  · rw [Int.compare_eq_gt.mpr h, Int.compare_eq_gt.mpr (by omega)]
    rfl

/-- Each number fits the digits that it is written in. -/
theorem WellFormed.fields_lt (h : t.WellFormed) (hyear : t.HasFourDigitYear) :
    (t.date.year.toNat < 10 ^ 4 ∧ t.date.month < 10 ^ 2 ∧ t.date.day < 10 ^ 2) ∧
      t.secondOfDay / 3600 < 10 ^ 2 ∧ t.secondOfDay / 60 % 60 < 10 ^ 2 ∧ t.writtenSecond < 10 ^ 2 := by
  have hday := Date.ofDayNumber_month_day_lt (t.second / secondsPerDay)
  obtain ⟨hfirst, hlast⟩ := hyear
  obtain ⟨hleap, -⟩ := h.leap_le
  have hsecond := h.writtenSecond_eq
  have hlt := t.secondOfDay_lt
  exact ⟨⟨by omega, hday⟩, by omega, by omega, by omega⟩

/-- What comes after the whole seconds decides where they are equal. -/
theorem compare_wholeSeconds_append (ht : t.WellFormed) (hu : u.WellFormed) (htyear : t.HasFourDigitYear)
    (huyear : u.HasFourDigitYear) (xs ys : List Char) :
    compare (t.wholeSeconds.toList ++ xs) (u.wholeSeconds.toList ++ ys) =
      (compare t.second u.second).then ((compare t.leap u.leap).then (compare xs ys)) := by
  have hfield (c : Char) {width m n : Nat} (hwidth : 0 < width) (hm : m < 10 ^ width) (hn : n < 10 ^ width)
      (xs ys : List Char) :
      compare ((padded width m).toList ++ c :: xs) ((padded width n).toList ++ c :: ys) =
        (compare m n).then (compare xs ys) := by
    rw [compare_padded_append hwidth hm hn, List.compare_cons_cons, Std.ReflOrd.compare_self, Ordering.eq_then]
  obtain ⟨⟨htyear_lt, htmonth, htday⟩, hthour, htminute, htsecond⟩ := ht.fields_lt htyear
  obtain ⟨⟨huyear_lt, humonth, huday⟩, huhour, huminute, husecond⟩ := hu.fields_lt huyear
  -- the six fields decide in turn, and date and time of day are each put together again
  rw [toList_wholeSeconds htyear, toList_wholeSeconds huyear]
  simp only [List.append_assoc, List.cons_append]
  rw [hfield '-' (by decide) htyear_lt huyear_lt, hfield '-' (by decide) htmonth humonth,
    hfield 'T' (by decide) htday huday, hfield ':' (by decide) hthour huhour,
    hfield ':' (by decide) htminute huminute, compare_padded_append (by decide) htsecond husecond,
    ← compare_second, ← compare_date htyear huyear]
  have htime := congrArg (·.then (compare xs ys)) (compare_timeOfDay ht hu)
  simp only [Ordering.then_assoc] at htime ⊢
  rw [htime]

/-! ### Instants -/

/-- Instants are in the order of the second, the leap second and the nanoseconds after it. -/
theorem cmp_eq (ht : t.WellFormed) (hu : u.WellFormed) :
    t.cmp u = (compare t.second u.second).then
      ((compare t.leap u.leap).then (compare t.writtenNano u.writtenNano)) := by
  obtain ⟨htnano, htlt⟩ := ht.nano_eq
  obtain ⟨hunano, hult⟩ := hu.nano_eq
  rw [cmp, htnano, hunano, compare_mul_add htlt hult]

/-- Texts are in the order of the second, the leap second and the fraction after it. -/
theorem compare_render_eq (ht : t.WellFormed) (hu : u.WellFormed) (htyear : t.HasFourDigitYear)
    (huyear : u.HasFourDigitYear) :
    compare t.render u.render = (compare t.second u.second).then
      ((compare t.leap u.leap).then (compare (fractionText t.writtenNano) (fractionText u.writtenNano))) := by
  rw [Text.compare_eq, toList_render, toList_render, compare_wholeSeconds_append ht hu htyear huyear]

/-- An instant is a later one cut to the digits that it is written in. -/
def IsCutOf (t u : Instant) : Prop :=
  t.second = u.second ∧ t.leap = u.leap ∧ IsCut t.writtenNano u.writtenNano

instance (t u : Instant) : Decidable (t.IsCutOf u) := inferInstanceAs (Decidable (_ ∧ _ ∧ _ ∧ _))

example : (Instant.mk 1704067200 0).IsCutOf ⟨1704067200, 500000000⟩ := by decide

theorem not_isCutOf_self (t : Instant) : ¬ t.IsCutOf t := fun h => Nat.lt_irrefl _ h.2.2.1

/-- An instant that is cut from a later one is written as if it came after it. -/
theorem compare_render_of_isCutOf (ht : t.WellFormed) (hu : u.WellFormed) (htyear : t.HasFourDigitYear)
    (huyear : u.HasFourDigitYear) (h : t.IsCutOf u) : t.cmp u = .lt ∧ compare t.render u.render = .gt := by
  obtain ⟨-, htlt⟩ := ht.nano_eq
  obtain ⟨-, hult⟩ := hu.nano_eq
  obtain ⟨hsecond, hleap, hcut⟩ := h
  rw [cmp_eq ht hu, compare_render_eq ht hu htyear huyear, hsecond, hleap, Std.ReflOrd.compare_self,
    Std.ReflOrd.compare_self]
  exact ⟨Nat.compare_eq_lt.mpr hcut.1, compare_fractionText_of_isCut htlt hult hcut⟩

/-- Instants of which one is cut from the other are written in the reverse of their order. -/
theorem compare_render_eq_swap (ht : t.WellFormed) (hu : u.WellFormed) (htyear : t.HasFourDigitYear)
    (huyear : u.HasFourDigitYear) (h : t.IsCutOf u ∨ u.IsCutOf t) :
    t.cmp u ≠ .eq ∧ compare t.render u.render = (t.cmp u).swap := by
  have hswap : t.cmp u = (u.cmp t).swap := by
    rw [cmp, cmp, Ordering.swap_then, ← Std.OrientedOrd.eq_swap, ← Std.OrientedOrd.eq_swap]
  rcases h with h | h
  · obtain ⟨hcmp, hrender⟩ := compare_render_of_isCutOf ht hu htyear huyear h
    rw [hcmp, hrender]
    decide
  · obtain ⟨hcmp, hrender⟩ := compare_render_of_isCutOf hu ht huyear htyear h
    rw [hswap, Std.OrientedOrd.eq_swap, hcmp, hrender]
    decide

/-- **The texts of instants are in the order of time** where neither is the other cut to fewer digits. -/
theorem compare_render (ht : t.WellFormed) (hu : u.WellFormed) (htyear : t.HasFourDigitYear)
    (huyear : u.HasFourDigitYear) (h : ¬ t.IsCutOf u) (h' : ¬ u.IsCutOf t) :
    compare t.render u.render = t.cmp u := by
  obtain ⟨-, htlt⟩ := ht.nano_eq
  obtain ⟨-, hult⟩ := hu.nano_eq
  rw [cmp_eq ht hu, compare_render_eq ht hu htyear huyear]
  apply then_congr
  intro hsecond
  apply then_congr
  intro hleap
  have hsecond := Int.compare_eq_eq.mp hsecond
  have hleap := Nat.compare_eq_eq.mp hleap
  apply compare_fractionText_of_not_isCut htlt hult
  · intro hcut
    exact h ⟨hsecond, hleap, hcut⟩
  · intro hcut
    exact h' ⟨hsecond.symm, hleap.symm, hcut⟩

end Gatehouse.Instant
