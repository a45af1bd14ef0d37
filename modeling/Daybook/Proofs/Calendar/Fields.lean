import Daybook.Calendar.Stamp

namespace Daybook

def Instant.year (t : Instant) : Int := t.stamp.date.year

/-- The year of an instant is written with four digits and no sign. -/
def Instant.HasPlainYear (t : Instant) : Prop := 0 ≤ t.year ∧ t.year ≤ 9999

instance (t : Instant) : Decidable t.HasPlainYear := by
  unfold Instant.HasPlainYear
  infer_instance

/-- The instant from which seconds are counted. -/
def Instant.epoch : Instant := ⟨0, 0, by decide, by decide, by decide, by decide⟩

theorem Instant.hasPlainYear_epoch : Instant.epoch.HasPlainYear := by decide

def Instant.noon : Instant := ⟨43200, 0, by decide, by decide, by decide, by decide⟩

def Instant.midnight : Instant := ⟨86400, 0, by decide, by decide, by decide, by decide⟩

/-- The middle of the leap second at the end of 2016. -/
def Instant.leapSecond : Instant :=
  ⟨1483228799, 1500000000, by decide, by decide, by decide, by decide⟩

/-- The second after it. -/
def Instant.newYear : Instant := ⟨1483228800, 0, by decide, by decide, by decide, by decide⟩

/-- The first second of the year 10000. -/
def Instant.tenThousand : Instant :=
  ⟨253402300800, 0, by decide, by decide, by decide, by decide⟩

theorem daysBeforeYear_mono {a b : Int} (h : a ≤ b) : daysBeforeYear a ≤ daysBeforeYear b := by
  unfold daysBeforeYear
  omega

theorem yearOf_bounds {n first last : Int} (hfirst : daysBeforeYear first ≤ n)
    (hlast : n < daysBeforeYear (last + 1)) : first ≤ yearOf n ∧ yearOf n ≤ last := by
  have hle := daysBeforeYear_yearOf_le n
  have hlt := lt_daysBeforeYear_yearOf_succ n
  constructor
  · apply Int.not_lt.mp
    intro hyear
    have := daysBeforeYear_mono (show yearOf n + 1 ≤ first by omega)
    omega
  · apply Int.not_lt.mp
    intro hyear
    have := daysBeforeYear_mono (show last + 1 ≤ yearOf n by omega)
    omega

theorem yearOf_mono {n m : Int} (h : n ≤ m) : yearOf n ≤ yearOf m := by
  have hle := daysBeforeYear_yearOf_le n
  have hlt := lt_daysBeforeYear_yearOf_succ m
  apply Int.not_lt.mp
  intro hyear
  have := daysBeforeYear_mono (show yearOf m + 1 ≤ yearOf n by omega)
  omega

namespace Instant

theorem year_mono {s t : Instant} (h : s.second ≤ t.second) : s.year ≤ t.year := by
  apply yearOf_mono
  omega

theorem year_bounds (t : Instant) : -262143 ≤ t.year ∧ t.year ≤ 262142 := by
  have hfirst := t.firstSecond_le
  have hlast := t.le_lastSecond
  unfold firstSecond at hfirst
  unfold lastSecond at hlast
  apply yearOf_bounds <;> unfold daysBeforeYear epochDay <;> omega

/-- The nanoseconds of an instant are those of its fraction, and a whole second more when it is a leap
second, which only follows the last second of a minute. -/
theorem nano_parts (t : Instant) :
    t.nano = t.nano % nanosPerSecond + nanosPerSecond * (t.nano / nanosPerSecond) ∧
      (t.nano / nanosPerSecond = 0 ∨ t.nano / nanosPerSecond = 1 ∧ t.second % 60 = 59) := by
  have hlt := t.nano_lt
  have hleap := t.second_of_leap
  unfold nanosPerSecond at *
  omega

theorem stamp_second (t : Instant) :
    t.stamp.second = (t.second % 86400).toNat % 60 + t.nano / nanosPerSecond := rfl

theorem stamp_nano (t : Instant) : t.stamp.nano = t.nano % nanosPerSecond := rfl

theorem isValid_stamp (t : Instant) : t.stamp.IsValid := by
  have hyear := t.year_bounds
  have hnano := t.nano_parts
  have hlt : t.nano % nanosPerSecond < nanosPerSecond := Nat.mod_lt _ (by decide)
  refine ⟨Date.isValid_ofDay _, hyear.1, hyear.2, ?_, ?_, ?_, hlt⟩ <;>
    simp only [stamp] <;> omega

theorem instant?_stamp (t : Instant) : t.stamp.instant? 0 = some t := by
  have hnano := t.nano_parts
  have hday : t.stamp.date.toDay = t.second / 86400 := Date.toDay_ofDay _
  have hsecond : t.stamp.date.toDay * 86400 + t.stamp.hour * 3600 + t.stamp.minute * 60 +
      min t.stamp.second 59 - 0 = t.second := by
    rw [hday]
    simp only [stamp]
    have : min ((t.second % 86400).toNat % 60 + t.nano / nanosPerSecond) 59 =
        (t.second % 86400).toNat % 60 := by omega
    rw [this]
    omega
  have hleap : t.stamp.nano + (if t.stamp.second = 60 then nanosPerSecond else 0) = t.nano := by
    have hsixty := t.stamp_second
    rw [stamp_nano]
    obtain ⟨hsum, hzero | ⟨hone, hlast⟩⟩ := hnano
    · rw [if_neg (by omega)]
      rw [hzero] at hsum
      omega
    · rw [if_pos (by omega)]
      rw [hone] at hsum
      omega
  rw [Stamp.instant?, if_pos t.isValid_stamp, hleap]
  have hself := t.ofParts?_self
  rwa [← hsecond] at hself

/-- The instant at which the second of an instant begins. A leap second is a second of its own. -/
def wholeSecond (t : Instant) : Instant where
  second := t.second
  nano := nanosPerSecond * (t.nano / nanosPerSecond)
  firstSecond_le := t.firstSecond_le
  le_lastSecond := t.le_lastSecond
  nano_lt := by
    have := t.nano_lt
    unfold nanosPerSecond at *
    omega
  second_of_leap := by
    intro hle
    rcases t.nano_parts.2 with hzero | ⟨_, hlast⟩
    · rw [hzero] at hle
      exact absurd hle (by decide)
    · exact hlast

theorem stamp_wholeSecond (t : Instant) : t.wholeSecond.stamp = { t.stamp with nano := 0 } := by
  have hpos : 0 < nanosPerSecond := by decide
  simp [stamp, wholeSecond, Nat.mul_div_cancel_left _ hpos]

end Instant

end Daybook
