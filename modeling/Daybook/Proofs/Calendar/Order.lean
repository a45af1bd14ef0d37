import Daybook.Proofs.Calendar.Reading

namespace Daybook

namespace Digits

theorem digit_lt_digit {m n : Nat} (h : m % 10 < n % 10) : digit m < digit n := by
  have hn : n % 10 < 10 := Nat.mod_lt _ (by decide)
  unfold digit
  generalize m % 10 = i at h
  generalize n % 10 = j at h hn
  have : ∀ j < 10, ∀ i < j, Char.ofNat (48 + i) < Char.ofNat (48 + j) := by decide
  exact this j hn i h

theorem fixed_append_lt {width m n : Nat} (h : m < n) (hn : n < 10 ^ width) (s t : List Char) :
    fixed width m ++ s < fixed width n ++ t := by
  induction width generalizing m n s t with
  | zero => omega
  | succ width ih =>
      simp only [fixed, List.append_assoc, List.singleton_append]
      by_cases hhigh : m / 10 < n / 10
      · exact ih hhigh (by omega) _ _
      · have hsame : m / 10 = n / 10 := by omega
        rw [hsame]
        apply List.append_left_lt
        exact List.cons_lt_cons_iff.mpr (.inl (digit_lt_digit (by omega)))

theorem fixed_append_lt_of {width m n : Nat} {s t : List Char} (hn : n < 10 ^ width)
    (h : m < n ∨ m = n ∧ s < t) : fixed width m ++ s < fixed width n ++ t := by
  rcases h with hlt | ⟨rfl, hrest⟩
  · exact fixed_append_lt hlt hn s t
  · exact List.append_left_lt hrest

end Digits

def Date.Precedes (d e : Date) : Prop :=
  d.year < e.year ∨ d.year = e.year ∧ (d.month < e.month ∨ d.month = e.month ∧ d.day < e.day)

theorem daysBeforeMonth_add_monthLength_le (leap : Bool) {month : Nat} (h : month ≤ 12) :
    daysBeforeMonth leap month + monthLength leap month ≤ yearLength leap := by
  have : ∀ leap : Bool, ∀ month ≤ 12,
      daysBeforeMonth leap month + monthLength leap month ≤ yearLength leap := by decide
  exact this leap month h

theorem daysBeforeMonth_add_monthLength_le_of_lt (leap : Bool) {m n : Nat} (hm : 1 ≤ m)
    (hn : n ≤ 12) (h : m < n) :
    daysBeforeMonth leap m + monthLength leap m ≤ daysBeforeMonth leap n := by
  have : ∀ leap : Bool, ∀ n ≤ 12, ∀ m < n, 1 ≤ m →
      daysBeforeMonth leap m + monthLength leap m ≤ daysBeforeMonth leap n := by decide
  exact this leap n hn m h hm

theorem Date.IsValid.toDay_bounds {d : Date} (h : d.IsValid) :
    daysBeforeYear d.year ≤ d.toDay + epochDay ∧
      d.toDay + epochDay < daysBeforeYear (d.year + 1) := by
  obtain ⟨hmonth, hmonth', hday, hday'⟩ := h
  have hend := daysBeforeMonth_add_monthLength_le (isLeapYear d.year) hmonth'
  rw [daysBeforeYear_succ]
  unfold toDay
  omega

theorem Date.precedes_of_toDay_lt {d e : Date} (hd : d.IsValid) (he : e.IsValid)
    (h : d.toDay < e.toDay) : d.Precedes e := by
  have hdbounds := hd.toDay_bounds
  have hebounds := he.toDay_bounds
  rcases Int.lt_trichotomy d.year e.year with hyear | hyear | hyear
  · exact .inl hyear
  · refine .inr ⟨hyear, ?_⟩
    obtain ⟨hdmonth, _, _, hdday⟩ := hd
    obtain ⟨hemonth, hemonth', heday, heday'⟩ := he
    unfold toDay at h
    rw [hyear] at h hdday
    rcases Nat.lt_trichotomy d.month e.month with hmonth | hmonth | hmonth
    · exact .inl hmonth
    · rw [hmonth] at h
      exact .inr ⟨hmonth, by omega⟩
    · have := daysBeforeMonth_add_monthLength_le_of_lt (isLeapYear e.year) hemonth
        (by omega) hmonth
      omega
  · have := daysBeforeYear_mono (show e.year + 1 ≤ d.year by omega)
    omega

def Stamp.Precedes (s t : Stamp) : Prop :=
  s.date.Precedes t.date ∨ s.date = t.date ∧
    (s.hour < t.hour ∨ s.hour = t.hour ∧
      (s.minute < t.minute ∨ s.minute = t.minute ∧
        (s.second < t.second ∨ s.second = t.second ∧ s.nano < t.nano)))

namespace Instant

open Digits

variable {a b : Instant}

theorem before_iff : a.before b ↔ a.second < b.second ∨ a.second = b.second ∧ a.nano < b.nano := by
  simp [before]

/-- On one day the order of seconds is that of hours, minutes and seconds. A leap second comes after
the second that it follows and in the same minute. -/
theorem clock_lt_of_second_lt (hday : a.second / 86400 = b.second / 86400)
    (h : a.second < b.second) :
    a.stamp.hour < b.stamp.hour ∨ a.stamp.hour = b.stamp.hour ∧
      (a.stamp.minute < b.stamp.minute ∨ a.stamp.minute = b.stamp.minute ∧
        a.stamp.second < b.stamp.second) := by
  have ha := a.nano_parts.2
  have hb := b.nano_parts.2
  simp only [stamp]
  generalize a.nano / nanosPerSecond = p at ha
  generalize b.nano / nanosPerSecond = q at hb
  omega

/-- Within a second the order of nanoseconds is that of the fractions, the leap second coming last. -/
theorem fraction_lt_of_nano_lt (hsecond : a.second = b.second) (h : a.nano < b.nano) :
    a.stamp.second < b.stamp.second ∨
      a.stamp.second = b.stamp.second ∧ a.stamp.nano < b.stamp.nano := by
  simp only [stamp, hsecond]
  unfold nanosPerSecond
  omega

theorem precedes_of_before (h : a.before b) : a.stamp.Precedes b.stamp := by
  have hdate : ∀ t : Instant, t.stamp.date = Date.ofDay (t.second / 86400) := fun _ => rfl
  rcases before_iff.mp h with hsecond | ⟨hsecond, hnano⟩
  · by_cases hday : a.second / 86400 < b.second / 86400
    · left
      rw [hdate, hdate]
      apply Date.precedes_of_toDay_lt (Date.isValid_ofDay _) (Date.isValid_ofDay _)
      rwa [Date.toDay_ofDay, Date.toDay_ofDay]
    · have hsame : a.second / 86400 = b.second / 86400 := by omega
      refine .inr ⟨by rw [hdate, hdate, hsame], ?_⟩
      rcases clock_lt_of_second_lt hsame hsecond with hhour | ⟨hhour, hminute | ⟨hminute, hlt⟩⟩
      · exact .inl hhour
      · exact .inr ⟨hhour, .inl hminute⟩
      · exact .inr ⟨hhour, .inr ⟨hminute, .inl hlt⟩⟩
  · refine .inr ⟨by rw [hdate, hdate, hsecond], .inr ⟨?_, .inr ⟨?_, ?_⟩⟩⟩
    · simp only [stamp, hsecond]
    · simp only [stamp, hsecond]
    · exact fraction_lt_of_nano_lt hsecond hnano

theorem sortableText_lt_of_precedes (ha : a.HasPlainYear) (hb : b.HasPlainYear)
    (h : a.stamp.Precedes b.stamp) : a.sortableText < b.sortableText := by
  have hyear : b.stamp.date.year.toNat < 10 ^ 4 := by
    have := hb.2
    unfold year at this
    omega
  obtain ⟨hmonth, hday, hhour, hminute, hsecond⟩ := b.isValid_stamp.fields_lt
  have hnano : b.stamp.nano < 10 ^ 9 := b.isValid_stamp.2.2.2.2.2.2
  have hayear : Stamp.yearText a.stamp.date.year = fixed 4 a.stamp.date.year.toNat :=
    Stamp.yearText_of_plain ha
  have hbyear : Stamp.yearText b.stamp.date.year = fixed 4 b.stamp.date.year.toNat :=
    Stamp.yearText_of_plain hb
  have hyears : a.stamp.date.year < b.stamp.date.year →
      a.stamp.date.year.toNat < b.stamp.date.year.toNat := by
    intro hlt
    have := ha.1
    unfold Instant.year at this
    omega
  simp only [sortableText, Stamp.dateText, Stamp.clockText, hayear, hbyear, List.append_assoc,
    List.cons_append]
  apply fixed_append_lt_of hyear
  rcases h with (hlt | ⟨hsame, hlt⟩) | ⟨hsame, hlt⟩
  · exact .inl (hyears hlt)
  · refine .inr ⟨congrArg Int.toNat hsame, List.cons_lt_cons_self.mpr ?_⟩
    apply fixed_append_lt_of hmonth
    rcases hlt with hlt | ⟨hsame, hlt⟩
    · exact .inl hlt
    · refine .inr ⟨hsame, List.cons_lt_cons_self.mpr ?_⟩
      exact fixed_append_lt hlt hday _ _
  · rw [hsame]
    refine .inr ⟨rfl, List.cons_lt_cons_self.mpr (List.append_left_lt ?_)⟩
    refine List.cons_lt_cons_self.mpr (List.append_left_lt (List.cons_lt_cons_self.mpr ?_))
    apply fixed_append_lt_of hhour
    rcases hlt with hlt | ⟨hsame, hlt⟩
    · exact .inl hlt
    · refine .inr ⟨hsame, List.cons_lt_cons_self.mpr ?_⟩
      apply fixed_append_lt_of hminute
      rcases hlt with hlt | ⟨hsame, hlt⟩
      · exact .inl hlt
      · refine .inr ⟨hsame, List.cons_lt_cons_self.mpr ?_⟩
        apply fixed_append_lt_of hsecond
        rcases hlt with hlt | ⟨hsame, hlt⟩
        · exact .inl hlt
        · refine .inr ⟨hsame, List.cons_lt_cons_self.mpr ?_⟩
          exact fixed_append_lt hlt hnano _ _

theorem before_trichotomy (a b : Instant) : a.before b ∨ a = b ∨ b.before a := by
  rw [before_iff, before_iff]
  by_cases hsecond : a.second = b.second
  · rcases Nat.lt_trichotomy a.nano b.nano with hnano | hnano | hnano
    · exact .inl (.inr ⟨hsecond, hnano⟩)
    · exact .inr (.inl (ext_parts hsecond hnano))
    · exact .inr (.inr (.inr ⟨hsecond.symm, hnano⟩))
  · rcases Int.lt_or_gt_of_ne hsecond with hlt | hgt
    · exact .inl (.inl hlt)
    · exact .inr (.inr (.inl hgt))

/-- The texts that a table is ordered by are in the order of time. -/
theorem sortableText_lt_iff (ha : a.HasPlainYear) (hb : b.HasPlainYear) :
    a.sortableText < b.sortableText ↔ a.before b := by
  constructor
  · intro hlt
    rcases before_trichotomy a b with h | rfl | h
    · exact h
    · exact absurd hlt (List.lt_irrefl _)
    · have hgt := sortableText_lt_of_precedes hb ha (precedes_of_before h)
      exact absurd hlt (List.lt_asymm hgt)
  · intro h
    exact sortableText_lt_of_precedes ha hb (precedes_of_before h)

end Instant

end Daybook
