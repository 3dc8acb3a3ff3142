import Gatehouse.Calendar

/-!
# The date of a day

Every day number has a date with that day number (`Date.dayNumber_ofDayNumber`), which exists in the
calendar if its year does (`Date.isValid_ofDayNumber`). The year is found by a quotient that misses it by
at most one (`Calendar.yearOfDay_spec`), month and day by a walk along the lengths of the months
(`Calendar.exists_monthAndDay`). Later dates are those of later days (`Date.lt_of_ofDayNumber_before`).
-/

namespace Gatehouse

namespace Calendar

/-! ### Years -/

/-- The days of a year. -/
def yearLength (leap : Bool) : Nat := if leap then 366 else 365

theorem daysBeforeYear_eq (y : Int) :
    daysBeforeYear y = 365 * (y - 1) + (y - 1) / 4 - (y - 1) / 100 + (y - 1) / 400 := rfl

theorem isLeapYear_iff (y : Int) :
    isLeapYear y = true ↔ y % 4 = 0 ∧ (y % 100 ≠ 0 ∨ y % 400 = 0) := by
  simp [isLeapYear]

/-- A year begins as many days after the year before it as that has. -/
theorem daysBeforeYear_succ (y : Int) :
    daysBeforeYear (y + 1) = daysBeforeYear y + yearLength (isLeapYear y) := by
  rw [daysBeforeYear_eq, daysBeforeYear_eq, yearLength]
  by_cases h : isLeapYear y = true
  · rw [if_pos h]
    rw [isLeapYear_iff] at h
    omega
  · rw [if_neg h]
    rw [isLeapYear_iff] at h
    omega

/-- The year of a day has begun, and the next one has not. -/
theorem yearOfDay_spec (n : Int) :
    daysBeforeYear (yearOfDay n) ≤ n ∧ n < daysBeforeYear (yearOfDay n + 1) := by
  unfold yearOfDay
  dsimp only
  split
  next h =>
    refine ⟨h, ?_⟩
    rw [daysBeforeYear_eq]
    omega
  next h =>
    split
    next h' =>
      rw [daysBeforeYear_eq, daysBeforeYear_eq]
      rw [daysBeforeYear_eq] at h'
      omega
    next h' => omega

/-! ### Months -/

/-- The days of some months. -/
def total (lengths : List Nat) : Nat := lengths.foldl (· + ·) 0

theorem foldl_add (n : Nat) (lengths : List Nat) :
    lengths.foldl (· + ·) n = n + total lengths := by
  induction lengths generalizing n with
  | nil => rfl
  | cons l ls ih =>
    rw [total, List.foldl_cons, List.foldl_cons, ih, ih (0 + l)]
    omega

theorem total_cons (l : Nat) (ls : List Nat) : total (l :: ls) = l + total ls := by
  rw [total, List.foldl_cons, foldl_add, Nat.zero_add]

/-- The months make up the year. -/
theorem total_monthLengths (leap : Bool) : total (monthLengths leap) = yearLength leap := by
  cases leap <;> rfl

/-- The walk along the months ends in the month that holds the day. -/
theorem exists_monthAndDay (month day : Nat) {lengths : List Nat} (h : day < total lengths) :
    ∃ i length day', lengths[i]? = some length ∧
      monthAndDay month day lengths = (month + i, day') ∧ 1 ≤ day' ∧ day' ≤ length ∧
      total (lengths.take i) + day' = day + 1 := by
  induction lengths generalizing month day with
  | nil => exact absurd h (Nat.not_lt_zero day)
  | cons l ls ih =>
    rw [monthAndDay]
    by_cases hday : day < l
    · rw [if_pos hday]
      exact ⟨0, l, day + 1, rfl, rfl, by omega, by omega, Nat.zero_add _⟩
    · rw [if_neg hday]
      rw [total_cons] at h
      obtain ⟨i, length, day', hi, hwalk, hlow, hhigh, htotal⟩ := ih (month + 1) (day - l) (by omega)
      refine ⟨i + 1, length, day', hi, ?_, hlow, hhigh, ?_⟩
      · rw [hwalk]
        congr 1
        omega
      · rw [List.take_succ_cons, total_cons]
        omega

/-- A month begins when all months before it have ended. -/
theorem total_take_add_le {lengths : List Nat} {i j length : Nat} (hi : lengths[i]? = some length) (h : i < j) :
    total (lengths.take i) + length ≤ total (lengths.take j) := by
  induction lengths generalizing i j with
  | nil => exact absurd hi nofun
  | cons l ls ih =>
    obtain ⟨j, rfl⟩ := Nat.exists_eq_add_one_of_ne_zero (Nat.ne_zero_of_lt h)
    rw [List.take_succ_cons, total_cons]
    cases i with
    | zero =>
      obtain rfl := Option.some.inj hi
      have hnone : total ([] : List Nat) = 0 := rfl
      rw [List.take_zero, hnone]
      omega
    | succ i =>
      have hrest := ih hi (Nat.lt_of_succ_lt_succ h)
      rw [List.take_succ_cons, total_cons]
      omega

/-- A year begins when all years before it have ended. -/
theorem daysBeforeYear_succ_le {y z : Int} (h : y < z) : daysBeforeYear (y + 1) ≤ daysBeforeYear z := by
  rw [daysBeforeYear_eq, daysBeforeYear_eq]
  omega

end Calendar

namespace Date

open Calendar

/-- The date of a day number: its month and its place in the year. -/
theorem ofDayNumber_spec (n : Int) :
    ∃ i length, (monthLengths (isLeapYear (ofDayNumber n).year))[i]? = some length ∧
      (ofDayNumber n).month = i + 1 ∧ 1 ≤ (ofDayNumber n).day ∧ (ofDayNumber n).day ≤ length ∧
      daysBeforeYear (ofDayNumber n).year +
        (total ((monthLengths (isLeapYear (ofDayNumber n).year)).take i) + (ofDayNumber n).day : Nat) =
      n + epochDay + 1 := by
  obtain ⟨hlow, hhigh⟩ := yearOfDay_spec (n + epochDay)
  rw [daysBeforeYear_succ, ← total_monthLengths] at hhigh
  unfold ofDayNumber
  dsimp only
  generalize yearOfDay (n + epochDay) = year at *
  have hday : (n + epochDay - daysBeforeYear year).toNat < total (monthLengths (isLeapYear year)) := by
    omega
  obtain ⟨i, length, day, hi, hwalk, hlow', hhigh', htotal⟩ := exists_monthAndDay 1 _ hday
  rw [hwalk]
  exact ⟨i, length, hi, Nat.add_comm 1 i, hlow', hhigh', by omega⟩

/-- The date of a day number has that day number. -/
theorem dayNumber_ofDayNumber (n : Int) : (ofDayNumber n).dayNumber = n := by
  obtain ⟨i, length, -, hmonth, hday, -, htotal⟩ := ofDayNumber_spec n
  rw [dayNumber, daysBeforeMonth, hmonth, Nat.add_sub_cancel]
  change _ + (total _ : Int) + _ = n
  omega

/-- A date comes before another: by year, by month in one year, or by day in one month. -/
def Before (d e : Date) : Prop :=
  d.year < e.year ∨ d.year = e.year ∧ (d.month < e.month ∨ d.month = e.month ∧ d.day < e.day)

/-- A date that comes before another is that of an earlier day. -/
theorem lt_of_ofDayNumber_before {m n : Int} (h : (ofDayNumber m).Before (ofDayNumber n)) : m < n := by
  obtain ⟨i, length, hi, hmonth, -, hday, hm⟩ := ofDayNumber_spec m
  obtain ⟨j, -, -, hmonth', hday', -, hn⟩ := ofDayNumber_spec n
  rcases h with hyear | ⟨hyear, hmonths | ⟨hmonths, hdays⟩⟩
  · have hin : total _ + length ≤ total _ := total_take_add_le hi (List.getElem?_eq_some_iff.mp hi).1
    rw [List.take_length, total_monthLengths] at hin
    have hnext := daysBeforeYear_succ_le hyear
    rw [daysBeforeYear_succ] at hnext
    omega
  · have hin := total_take_add_le hi (j := j) (by omega)
    rw [hyear] at hm hin
    omega
  · obtain rfl : i = j := by omega
    rw [hyear] at hm
    omega

/-- The date of a day number exists in a year of the calendar. -/
theorem isValid_ofDayNumber {n : Int} (hfirst : firstYear ≤ (ofDayNumber n).year)
    (hlast : (ofDayNumber n).year ≤ lastYear) : (ofDayNumber n).isValid = true := by
  obtain ⟨i, length, hi, hmonth, hday, hday', -⟩ := ofDayNumber_spec n
  have hlength : (ofDayNumber n).monthLength? = some length := by
    rw [monthLength?, if_neg (by omega), hmonth, Nat.add_sub_cancel, hi]
  simp [isValid, hlength, hfirst, hlast, hday, hday']

/-- Months and days have two digits. -/
theorem ofDayNumber_month_day_lt (n : Int) : (ofDayNumber n).month < 100 ∧ (ofDayNumber n).day < 100 := by
  obtain ⟨i, length, hi, hmonth, -, hday, -⟩ := ofDayNumber_spec n
  have hmem := List.mem_of_getElem? hi
  obtain ⟨hlt, -⟩ := List.getElem?_eq_some_iff.mp hi
  have hlengths : ∀ leap, ∀ l ∈ monthLengths leap, l ≤ 31 := by decide
  have hsize : ∀ leap, (monthLengths leap).length = 12 := by decide
  have := hlengths _ _ hmem
  have := hsize (isLeapYear (ofDayNumber n).year)
  omega

end Date

end Gatehouse
