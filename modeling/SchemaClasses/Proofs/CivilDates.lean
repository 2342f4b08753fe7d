import Mathlib.Algebra.Order.BigOperators.Group.Finset
import Mathlib.Data.Int.SuccPred
import Mathlib.Tactic.IntervalCases
import SchemaClasses.Calendar

/-! Dates of the Gregorian calendar and the seconds that they stand for. The second of a date is
found by counting: the days of the years before its year, of the months before its month, and before
its day. The date that is made for a second is one of the calendar, and its second is the given one.
Dates are in the order of their seconds, so there is no other date for it. -/

namespace SchemaClasses.Calendar

/-! ### Counting -/

/-- Every fourth year has a leap day, but of the years that end a century only every fourth. -/
def IsLeap (year : Int) : Prop :=
  year % 4 = 0 ∧ (year % 100 = 0 → year % 400 = 0)

instance (year : Int) : Decidable (IsLeap year) :=
  inferInstanceAs (Decidable (_ ∧ _))

def yearLength (year : Int) : Nat :=
  if IsLeap year then 366 else 365

def monthLength (year : Int) (month : Nat) : Nat :=
  if month = 2 then if IsLeap year then 29 else 28
  else if month ∈ [4, 6, 9, 11] then 30
  else 31

/-- The days of the years from 1970 on that come before a year, less those of the years from it on
that come before 1970. -/
def daysBeforeYear (year : Int) : Int :=
  ∑ i ∈ Finset.range (year - 1970).toNat, (yearLength (1970 + i) : Int) -
    ∑ i ∈ Finset.range (1970 - year).toNat, (yearLength (1969 - i) : Int)

def daysBeforeMonth (year : Int) (month : Nat) : Nat :=
  ∑ i ∈ Finset.range (month - 1), monthLength year (i + 1)

namespace DateTime

/-- There are such a day and such a time of day. -/
structure IsValid (t : DateTime) : Prop where
  month : 1 ≤ t.month ∧ t.month ≤ 12
  day : 1 ≤ t.day ∧ t.day ≤ monthLength t.year t.month
  hour : t.hour < 24
  minute : t.minute < 60
  second : t.second < 60

/-- The number of the day, from the first of January 1970. -/
def dayNumber (t : DateTime) : Int :=
  daysBeforeYear t.year + daysBeforeMonth t.year t.month + t.day - 1

/-- The number of the second, from the beginning of 1970. -/
def unix (t : DateTime) : Int :=
  ((t.dayNumber * 24 + t.hour) * 60 + t.minute) * 60 + t.second

/-- The first of the fields in which the dates differ is less in the first date. -/
def Earlier (t t' : DateTime) : Prop :=
  t.year < t'.year ∨ t.year = t'.year ∧
    (t.month < t'.month ∨ t.month = t'.month ∧
      (t.day < t'.day ∨ t.day = t'.day ∧
        (t.hour < t'.hour ∨ t.hour = t'.hour ∧
          (t.minute < t'.minute ∨ t.minute = t'.minute ∧ t.second < t'.second))))

end DateTime

/-! ### Years -/

theorem daysBeforeYear_after (n : Nat) :
    daysBeforeYear (1970 + n) = ∑ i ∈ Finset.range n, (yearLength (1970 + i) : Int) := by
  have hafter : (1970 + (n : Int) - 1970).toNat = n := by omega
  have hbefore : (1970 - (1970 + (n : Int))).toNat = 0 := by omega
  rw [daysBeforeYear, hafter, hbefore, Finset.sum_range_zero, sub_zero]

theorem daysBeforeYear_before (n : Nat) :
    daysBeforeYear (1970 - n) = -∑ i ∈ Finset.range n, (yearLength (1969 - i) : Int) := by
  have hafter : (1970 - (n : Int) - 1970).toNat = 0 := by omega
  have hbefore : (1970 - (1970 - (n : Int))).toNat = n := by omega
  rw [daysBeforeYear, hafter, hbefore, Finset.sum_range_zero, zero_sub]

theorem daysBeforeYear_add_one (year : Int) :
    daysBeforeYear (year + 1) = daysBeforeYear year + yearLength year := by
  rcases le_or_gt 1970 year with h | h
  · obtain ⟨n, rfl⟩ := Int.le.dest h
    calc daysBeforeYear (1970 + n + 1)
        = daysBeforeYear (1970 + (n + 1 : Nat)) := by rw [Nat.cast_succ, add_assoc]
      _ = ∑ i ∈ Finset.range n, (yearLength (1970 + i) : Int) + yearLength (1970 + n) := by
          rw [daysBeforeYear_after, Finset.sum_range_succ]
      _ = daysBeforeYear (1970 + n) + yearLength (1970 + n) := by rw [daysBeforeYear_after]
  · obtain ⟨n, hn⟩ := Int.le.dest (Int.le_sub_one_of_lt h)
    obtain rfl : year = 1969 - n := by omega
    have hyear : (1969 - n : Int) = 1970 - (n + 1 : Nat) := by omega
    have hnext : (1969 - n + 1 : Int) = 1970 - n := by omega
    calc daysBeforeYear (1969 - n + 1)
        = -∑ i ∈ Finset.range n, (yearLength (1969 - i) : Int) := by
          rw [hnext, daysBeforeYear_before]
      _ = -∑ i ∈ Finset.range (n + 1), (yearLength (1969 - i) : Int) + yearLength (1969 - n) := by
          rw [Finset.sum_range_succ, neg_add, neg_add_cancel_right]
      _ = daysBeforeYear (1969 - n) + yearLength (1969 - n) := by
          rw [← daysBeforeYear_before, ← hyear]

/-- The days before a year by the number of leap days before it, of which there are 477 from the
year 1 on to 1969. -/
theorem daysBeforeYear_eq (year : Int) : daysBeforeYear year =
    365 * (year - 1970) + ((year - 1) / 4 - (year - 1) / 100 + (year - 1) / 400) - 477 := by
  have hstep : ∀ y : Int, (yearLength y : Int) =
      365 + (y / 4 - (y - 1) / 4) - (y / 100 - (y - 1) / 100) + (y / 400 - (y - 1) / 400) := by
    intro y
    unfold yearLength
    by_cases hleap : IsLeap y
    · rw [if_pos hleap]
      unfold IsLeap at hleap
      omega
    · rw [if_neg hleap]
      unfold IsLeap at hleap
      omega
  induction year using Int.inductionOn' (b := 1970) with
  | zero => simp [daysBeforeYear]
  | succ year _ ih =>
      rw [daysBeforeYear_add_one, ih, hstep]
      have hsub : year + 1 - 1 = year := by omega
      rw [hsub]
      omega
  | pred year _ ih =>
      have hsucc := daysBeforeYear_add_one (year - 1)
      have hsub : year - 1 + 1 = year := by omega
      rw [hsub, ih, hstep] at hsucc
      omega

theorem daysBeforeYear_add_yearLength_le {year year' : Int} (h : year < year') :
    daysBeforeYear year + yearLength year ≤ daysBeforeYear year' := by
  have hmono : Monotone daysBeforeYear := monotone_int_of_le_succ fun y => by
    rw [daysBeforeYear_add_one]
    omega
  rw [← daysBeforeYear_add_one]
  exact hmono h

/-! ### Months -/

theorem daysBeforeMonth_add_one (year : Int) {month : Nat} (h : 1 ≤ month) :
    daysBeforeMonth year (month + 1) = daysBeforeMonth year month + monthLength year month := by
  obtain ⟨before, rfl⟩ := Nat.exists_eq_add_of_le' h
  exact Finset.sum_range_succ _ before

theorem daysBeforeMonth_add_monthLength_le (year : Int) {month month' : Nat} (hmonth : 1 ≤ month)
    (h : month < month') :
    daysBeforeMonth year month + monthLength year month ≤ daysBeforeMonth year month' := by
  rw [← daysBeforeMonth_add_one year hmonth]
  exact Finset.sum_le_sum_of_subset (Finset.range_mono (Nat.sub_le_sub_right h 1))

/-- The months of a year from March on: how many days of a year that begins in March come before
each, and what length it has. -/
theorem months_from_march (year : Int) {index : Nat} (h : index ≤ 9) :
    daysBeforeMonth year (index + 3) + 306 = yearLength year + (153 * index + 2) / 5 ∧
      (153 * index + 2) / 5 + monthLength year (index + 3) = (153 * (index + 1) + 2) / 5 := by
  unfold yearLength
  interval_cases index <;> by_cases hleap : IsLeap year <;>
    simp [daysBeforeMonth, monthLength, hleap, Finset.sum_range_succ]

theorem january_february (year : Int) :
    daysBeforeMonth year 1 = 0 ∧ monthLength year 1 = 31 ∧ daysBeforeMonth year 2 = 31 ∧
      337 + monthLength year 2 = yearLength year := by
  unfold yearLength
  by_cases hleap : IsLeap year <;> simp [daysBeforeMonth, monthLength, hleap]

theorem daysBeforeMonth_thirteen (year : Int) : daysBeforeMonth year 13 = yearLength year := by
  obtain ⟨hbefore, hlength⟩ := months_from_march year (Nat.le_refl 9)
  rw [daysBeforeMonth_add_one year (by decide)]
  simp only [Nat.reduceAdd, Nat.reduceMul, Nat.reduceDiv] at hbefore hlength
  omega

/-- What a day of a year that begins in March is in the calendar. January and February are in the
year behind it, which has the leap day at the end of February. -/
theorem monthOfYear_cases {day : Nat} (h : day < 366) :
    ∃ month dayOfMonth, monthOfYear day = (month, dayOfMonth) ∧ 1 ≤ dayOfMonth ∧
      ((3 ≤ month ∧ month ≤ 12 ∧ ∀ year, dayOfMonth ≤ monthLength year month ∧
          daysBeforeMonth year month + dayOfMonth + 305 = yearLength year + day) ∨
        (1 ≤ month ∧ month ≤ 2 ∧ ∀ year, daysBeforeMonth year month + dayOfMonth + 305 = day ∧
          (day < yearLength year → dayOfMonth ≤ monthLength year month))) := by
  have hindex : (5 * day + 2) / 153 ≤ 11 := by omega
  have hbegun : (153 * ((5 * day + 2) / 153) + 2) / 5 ≤ day := by omega
  have hends : day < (153 * ((5 * day + 2) / 153 + 1) + 2) / 5 := by omega
  rw [monthOfYear]
  generalize (5 * day + 2) / 153 = index at hindex hbegun hends ⊢
  refine ⟨_, _, rfl, by omega, ?_⟩
  by_cases hyear : index < 10
  · rw [if_pos hyear]
    refine Or.inl ⟨by omega, by omega, fun year => ?_⟩
    obtain ⟨hbefore, hlength⟩ := months_from_march year (Nat.le_of_lt_succ hyear)
    omega
  · rw [if_neg hyear]
    refine Or.inr ⟨by omega, by omega, fun year => ?_⟩
    obtain ⟨hjanuary, hlength, hfebruary, hlength'⟩ := january_february year
    obtain rfl | rfl : index = 10 ∨ index = 11 := by omega
    · simp only [Nat.reduceSub, hjanuary, hlength]
      omega
    · simp only [Nat.reduceSub, hfebruary]
      omega

/-! ### From seconds to dates -/

/-- The years of a period of 400 years, each from March on, have 365 days and one more for each leap
day, which is the last day of the year. -/
theorem yearOfEra_spec {day : Nat} (h : day < 146097) :
    ∃ year dayOfYear, yearOfEra day = (year, dayOfYear) ∧ year < 400 ∧
      day + year / 100 = 365 * year + year / 4 + dayOfYear ∧ dayOfYear < 366 ∧
      (dayOfYear = 365 → IsLeap (year + 1)) := by
  refine ⟨_, _, rfl, ?_⟩
  -- Only the last century has a leap day at its end.
  have hcentury : min (day / 36524) 3 ≤ 3 ∧ min (day / 36524) 3 * 36524 ≤ day ∧
      (day - min (day / 36524) 3 * 36524 < 36524 ∨
        min (day / 36524) 3 = 3 ∧ day - min (day / 36524) 3 * 36524 = 36524) := by
    omega
  generalize min (day / 36524) 3 = century at hcentury ⊢
  obtain ⟨hlast, hbegun, hends⟩ := hcentury
  obtain ⟨inCentury, rfl⟩ := Nat.exists_eq_add_of_le hbegun
  rw [Nat.add_sub_cancel_left] at hends ⊢
  have hquad : inCentury / 1461 ≤ 24 ∧ inCentury / 1461 * 1461 ≤ inCentury ∧
      inCentury - inCentury / 1461 * 1461 < 1461 := by
    omega
  generalize inCentury / 1461 = quad at hquad ⊢
  obtain ⟨hquad, hbegun', hends'⟩ := hquad
  obtain ⟨inQuad, rfl⟩ := Nat.exists_eq_add_of_le hbegun'
  rw [Nat.add_sub_cancel_left] at hends' ⊢
  have hyear : min (inQuad / 365) 3 ≤ 3 ∧ min (inQuad / 365) 3 * 365 ≤ inQuad ∧
      (inQuad - min (inQuad / 365) 3 * 365 < 365 ∨
        min (inQuad / 365) 3 = 3 ∧ inQuad - min (inQuad / 365) 3 * 365 = 365) := by
    omega
  generalize min (inQuad / 365) 3 = year at hyear ⊢
  unfold IsLeap
  omega

theorem time_ofUnix (seconds : Int) :
    (ofUnix seconds).hour < 24 ∧ (ofUnix seconds).minute < 60 ∧ (ofUnix seconds).second < 60 ∧
      (((ofUnix seconds).hour * 60 + (ofUnix seconds).minute) * 60 +
        (ofUnix seconds).second : Int) = seconds % 86400 := by
  have htime : (ofUnix seconds).hour = (seconds % 86400).toNat / 3600 ∧
      (ofUnix seconds).minute = (seconds % 86400).toNat / 60 % 60 ∧
      (ofUnix seconds).second = (seconds % 86400).toNat % 60 := ⟨rfl, rfl, rfl⟩
  omega

/-- The calendar repeats itself after 400 years. -/
theorem isLeap_add_era (era year : Int) : IsLeap (era * 400 + year) ↔ IsLeap year := by
  unfold IsLeap
  omega

/-- January and February of a year that begins in March are in the calendar year behind it. In any
month, the days from there to the first of January are counted alike. -/
theorem dayNumber_of_march (era : Int) {year day dayOfYear : Nat} (hyear : year < 400)
    (hday : day + year / 100 = 365 * year + year / 4 + dayOfYear) :
    daysBeforeYear (era * 400 + year + 1) + dayOfYear - 306 = era * 146097 + day - epochDay := by
  rw [daysBeforeYear_eq, epochDay]
  omega

theorem date_ofUnix (seconds : Int) : (ofUnix seconds).dayNumber = seconds / 86400 ∧
    (1 ≤ (ofUnix seconds).month ∧ (ofUnix seconds).month ≤ 12) ∧
    (1 ≤ (ofUnix seconds).day ∧
      (ofUnix seconds).day ≤ monthLength (ofUnix seconds).year (ofUnix seconds).month) := by
  have hinEra : ((seconds / 86400 + epochDay) % 146097).toNat < 146097 := by omega
  obtain ⟨year, dayOfYear, hera, hyear, hday, hdayOfYear, hleap⟩ := yearOfEra_spec hinEra
  obtain ⟨month, dayOfMonth, hmonth, hdayOfMonth, hcases⟩ := monthOfYear_cases hdayOfYear
  have hdate : (ofUnix seconds).year = (seconds / 86400 + epochDay) / 146097 * 400 + year +
        (if month ≤ 2 then 1 else 0) ∧
      (ofUnix seconds).month = month ∧ (ofUnix seconds).day = dayOfMonth := by
    simp only [ofUnix, hera, hmonth, and_self]
  obtain ⟨hdateYear, hdateMonth, hdateDay⟩ := hdate
  have hnumber := dayNumber_of_march ((seconds / 86400 + epochDay) / 146097) hyear hday
  have hera : (seconds / 86400 + epochDay) / 146097 * 146097 +
      ((seconds / 86400 + epochDay) % 146097).toNat = seconds / 86400 + epochDay := by omega
  rw [hera] at hnumber
  rw [DateTime.dayNumber, hdateYear, hdateMonth, hdateDay]
  generalize (seconds / 86400 + epochDay) / 146097 = era at hnumber ⊢
  rcases hcases with ⟨hfirst, hlast, hinMonth⟩ | ⟨hfirst, hlast, hinMonth⟩
  · obtain ⟨hlength, hbefore⟩ := hinMonth (era * 400 + year)
    rw [daysBeforeYear_add_one] at hnumber
    rw [if_neg (by omega), add_zero]
    omega
  · obtain ⟨hbefore, hlength⟩ := hinMonth (era * 400 + year + 1)
    have hinYear : dayOfYear < yearLength (era * 400 + year + 1) := by
      unfold yearLength
      split
      · exact hdayOfYear
      · rename_i hcommon
        rw [add_assoc, isLeap_add_era] at hcommon
        have hnotLeapDay : dayOfYear ≠ 365 := fun hleapDay => hcommon (hleap hleapDay)
        omega
    have hinMonth := hlength hinYear
    rw [if_pos hlast]
    omega

theorem isValid_ofUnix (seconds : Int) : (ofUnix seconds).IsValid := by
  obtain ⟨-, hmonth, hday⟩ := date_ofUnix seconds
  obtain ⟨hhour, hminute, hsecond, -⟩ := time_ofUnix seconds
  exact ⟨hmonth, hday, hhour, hminute, hsecond⟩

theorem unix_ofUnix (seconds : Int) : (ofUnix seconds).unix = seconds := by
  have hday := (date_ofUnix seconds).1
  obtain ⟨-, -, -, htime⟩ := time_ofUnix seconds
  rw [DateTime.unix, hday]
  omega

/-! ### Order -/

namespace DateTime

variable {t t' : DateTime}

theorem IsValid.dayOfYear_lt (h : t.IsValid) :
    daysBeforeMonth t.year t.month + t.day ≤ yearLength t.year := by
  have hmonth := daysBeforeMonth_add_monthLength_le t.year h.month.1
    (Nat.lt_succ_of_le h.month.2)
  rw [daysBeforeMonth_thirteen] at hmonth
  have hday := h.day.2
  omega

/-- A later day in the order of the fields has a greater number. -/
theorem dayNumber_lt (h : t.IsValid) (h' : t'.IsValid)
    (hearlier : t.year < t'.year ∨ t.year = t'.year ∧
      (t.month < t'.month ∨ t.month = t'.month ∧ t.day < t'.day)) :
    t.dayNumber < t'.dayNumber := by
  unfold dayNumber
  rcases hearlier with hyear | ⟨hyear, hmonth | ⟨hmonth, hday⟩⟩
  · have hyears := daysBeforeYear_add_yearLength_le hyear
    have hinYear := h.dayOfYear_lt
    have hfirst := h'.day.1
    omega
  · have hmonths := daysBeforeMonth_add_monthLength_le t.year h.month.1 hmonth
    have hinMonth := h.day.2
    have hfirst := h'.day.1
    rw [← hyear]
    omega
  · rw [← hyear, ← hmonth]
    omega

theorem unix_lt_of_earlier (h : t.IsValid) (h' : t'.IsValid) (hearlier : t.Earlier t') :
    t.unix < t'.unix := by
  have htime := h.hour
  have htime' := h.minute
  have htime'' := h.second
  by_cases hdate : t.year = t'.year ∧ t.month = t'.month ∧ t.day = t'.day
  · obtain ⟨hyear, hmonth, hday⟩ := hdate
    have hnumber : t.dayNumber = t'.dayNumber := by
      rw [dayNumber, dayNumber, hyear, hmonth, hday]
    unfold Earlier at hearlier
    unfold unix
    omega
  · have hnumber := dayNumber_lt h h' (by unfold Earlier at hearlier; omega)
    unfold unix
    omega

theorem earlier_or_eq_or_earlier (t t' : DateTime) : t.Earlier t' ∨ t = t' ∨ t'.Earlier t := by
  cases t
  cases t'
  simp only [Earlier, DateTime.mk.injEq]
  omega

/-- Dates of the calendar are in the order of their seconds. -/
theorem unix_lt_iff (h : t.IsValid) (h' : t'.IsValid) : t.unix < t'.unix ↔ t.Earlier t' := by
  refine ⟨fun hlt => ?_, unix_lt_of_earlier h h'⟩
  rcases earlier_or_eq_or_earlier t t' with hearlier | rfl | hlater
  · exact hearlier
  · exact absurd hlt (lt_irrefl _)
  · exact absurd hlt (unix_lt_of_earlier h' h hlater).not_gt

/-- No two dates of the calendar have the same second. -/
theorem eq_of_unix_eq (h : t.IsValid) (h' : t'.IsValid) (heq : t.unix = t'.unix) : t = t' := by
  rcases earlier_or_eq_or_earlier t t' with hearlier | rfl | hlater
  · exact absurd heq (unix_lt_of_earlier h h' hearlier).ne
  · rfl
  · exact absurd heq (unix_lt_of_earlier h' h hlater).ne'

end DateTime

end SchemaClasses.Calendar
