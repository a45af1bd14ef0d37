namespace Daybook

def isLeapYear (year : Int) : Bool := year % 4 == 0 && (year % 100 != 0 || year % 400 == 0)

/-- The days from 1 January of year 0 to 1 January of a year. -/
def daysBeforeYear (year : Int) : Int :=
  365 * year + (year + 3) / 4 - (year + 99) / 100 + (year + 399) / 400

def yearLength (leap : Bool) : Nat := if leap then 366 else 365

def monthLength (leap : Bool) : (month : Nat) → Nat
  | 2 => if leap then 29 else 28
  | 4 | 6 | 9 | 11 => 30
  | _ => 31

def daysBeforeMonth (leap : Bool) (month : Nat) : Nat :=
  let february := if leap then 29 else 28
  match month with
  | 0 | 1 => 0
  | 2 => 31
  | 3 => 31 + february
  | 4 => 62 + february
  | 5 => 92 + february
  | 6 => 123 + february
  | 7 => 153 + february
  | 8 => 184 + february
  | 9 => 215 + february
  | 10 => 245 + february
  | 11 => 276 + february
  | _ => 306 + february

/-- The last month up to `month` that begins on or before the day `k` of the year. -/
def monthUpTo (leap : Bool) (k : Nat) : (month : Nat) → Nat
  | 0 => 1
  | month + 1 =>
      if daysBeforeMonth leap (month + 1) ≤ k then month + 1 else monthUpTo leap k month

/-- The year of a day counted from 1 January of year 0. The average length of a year gives it but for
one. -/
def yearOf (n : Int) : Int :=
  let guess := 400 * n / 146097
  if n < daysBeforeYear guess then guess - 1
  else if daysBeforeYear (guess + 1) ≤ n then guess + 1
  else guess

/-- The day number of 1 January of year 0 has this distance from day 0. -/
def epochDay : Int := 719528

/-- A date, or three numbers that might be one. -/
structure Date where
  year : Int
  month : Nat
  day : Nat
deriving DecidableEq, Repr

namespace Date

def IsValid (d : Date) : Prop :=
  1 ≤ d.month ∧ d.month ≤ 12 ∧ 1 ≤ d.day ∧ d.day ≤ monthLength (isLeapYear d.year) d.month

instance (d : Date) : Decidable d.IsValid := by unfold IsValid; infer_instance

def toDay (d : Date) : Int :=
  daysBeforeYear d.year - epochDay + daysBeforeMonth (isLeapYear d.year) d.month + d.day - 1

def ofDay (n : Int) : Date :=
  let year := yearOf (n + epochDay)
  let leap := isLeapYear year
  let k := (n + epochDay - daysBeforeYear year).toNat
  let month := monthUpTo leap k 12
  ⟨year, month, k - daysBeforeMonth leap month + 1⟩

end Date

theorem monthLength_le (leap : Bool) (month : Nat) : monthLength leap month ≤ 31 := by
  unfold monthLength
  split
  · split <;> decide
  all_goals decide

theorem daysBeforeYear_yearOf_le (n : Int) : daysBeforeYear (yearOf n) ≤ n := by
  unfold yearOf daysBeforeYear
  grind

theorem lt_daysBeforeYear_yearOf_succ (n : Int) : n < daysBeforeYear (yearOf n + 1) := by
  unfold yearOf daysBeforeYear
  grind

theorem daysBeforeYear_succ (year : Int) :
    daysBeforeYear (year + 1) = daysBeforeYear year + yearLength (isLeapYear year) := by
  unfold daysBeforeYear yearLength isLeapYear
  by_cases h4 : year % 4 = 0 <;> by_cases h100 : year % 100 = 0 <;>
    by_cases h400 : year % 400 = 0 <;> simp [h4, h100, h400] <;> omega

theorem monthUpTo_bounds (leap : Bool) (k : Nat) (h : k < yearLength leap) :
    1 ≤ monthUpTo leap k 12 ∧ monthUpTo leap k 12 ≤ 12 ∧
      daysBeforeMonth leap (monthUpTo leap k 12) ≤ k ∧
      k < daysBeforeMonth leap (monthUpTo leap k 12) + monthLength leap (monthUpTo leap k 12) := by
  cases leap
  · have : ∀ k < 365, 1 ≤ monthUpTo false k 12 ∧ monthUpTo false k 12 ≤ 12 ∧
        daysBeforeMonth false (monthUpTo false k 12) ≤ k ∧
        k < daysBeforeMonth false (monthUpTo false k 12) +
          monthLength false (monthUpTo false k 12) := by decide +kernel
    exact this k h
  · have : ∀ k < 366, 1 ≤ monthUpTo true k 12 ∧ monthUpTo true k 12 ≤ 12 ∧
        daysBeforeMonth true (monthUpTo true k 12) ≤ k ∧
        k < daysBeforeMonth true (monthUpTo true k 12) +
          monthLength true (monthUpTo true k 12) := by decide +kernel
    exact this k h

theorem dayOfYear_lt (n : Int) :
    (n - daysBeforeYear (yearOf n)).toNat < yearLength (isLeapYear (yearOf n)) := by
  have hle := daysBeforeYear_yearOf_le n
  have hlt := lt_daysBeforeYear_yearOf_succ n
  rw [daysBeforeYear_succ] at hlt
  omega

theorem Date.isValid_ofDay (n : Int) : (Date.ofDay n).IsValid := by
  have h := monthUpTo_bounds _ _ (dayOfYear_lt (n + epochDay))
  simp only [Date.IsValid, Date.ofDay]
  omega

theorem Date.toDay_ofDay (n : Int) : (Date.ofDay n).toDay = n := by
  have hle := daysBeforeYear_yearOf_le (n + epochDay)
  have h := monthUpTo_bounds _ _ (dayOfYear_lt (n + epochDay))
  simp only [Date.toDay, Date.ofDay]
  omega

end Daybook
