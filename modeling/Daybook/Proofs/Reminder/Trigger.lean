import Daybook.Json.Basic
import Daybook.Proofs.Reminder.Ledger

namespace Daybook

namespace Instant

variable {now later : Instant}

/-- An instant lies so many minutes after another one. What is counted from a leap second on is counted
from the second it follows. -/
def LiesAfter (later now : Instant) (minutes : Int) : Prop :=
  if minutes = 0 then later = now
  else later.second = now.second + 60 * minutes ∧ later.nano = now.nano % nanosPerSecond

theorem ofParts?_eq_some_iff {second : Int} {nano : Nat} :
    ofParts? second nano = some later ↔ later.second = second ∧ later.nano = nano := by
  constructor
  · exact parts_of_ofParts?
  · rintro ⟨rfl, rfl⟩
    exact later.ofParts?_self

theorem addSeconds_of_pos (now : Instant) {seconds : Int} (h : 0 < seconds) :
    now.addSeconds seconds = ofParts? (now.second + seconds) (now.nano % nanosPerSecond) := by
  have hlt := now.nano_lt
  rw [addSeconds, if_neg (by omega), if_pos h]
  split
  · rw [Nat.mod_eq_of_lt ‹_›]
  · rw [Nat.mod_eq_sub_mod (by omega), Nat.mod_eq_of_lt (by omega)]

theorem liesAfter_iff {minutes : Int} (h : 0 ≤ minutes) :
    later.LiesAfter now minutes ↔ now.addSeconds (60 * minutes) = some later := by
  unfold LiesAfter
  split
  · rename_i hzero
    rw [addSeconds, if_pos (by omega), Option.some.injEq, eq_comm]
  · rw [addSeconds_of_pos now (by omega), ofParts?_eq_some_iff]

theorem exists_liesAfter_iff {minutes : Int} (h : 0 ≤ minutes) :
    (∃ later : Instant, later.LiesAfter now minutes) ↔
      now.second + 60 * minutes ≤ lastSecond := by
  have hfirst := now.firstSecond_le
  have hlast := now.le_lastSecond
  unfold LiesAfter
  constructor
  · rintro ⟨later, hlater⟩
    have := later.le_lastSecond
    split at hlater
    · omega
    · omega
  · intro hsecond
    split
    · exact ⟨now, rfl⟩
    · have hnano : now.nano % nanosPerSecond < nanosPerSecond := Nat.mod_lt _ (by decide)
      exact ⟨⟨now.second + 60 * minutes, now.nano % nanosPerSecond, by omega, hsecond, by omega,
        by omega⟩, rfl, rfl⟩

theorem LiesAfter.second_eq {minutes : Int} (h : later.LiesAfter now minutes) :
    later.second = now.second + 60 * minutes := by
  unfold LiesAfter at h
  split at h
  · rw [h]
    omega
  · exact h.1

theorem liesAfter_of_not_isLeap (h : ¬now.IsLeap) {minutes : Int} :
    later.LiesAfter now minutes ↔
      later.second = now.second + 60 * minutes ∧ later.nano = now.nano := by
  have hnano : now.nano % nanosPerSecond = now.nano := Nat.mod_eq_of_lt (Nat.not_le.mp h)
  unfold LiesAfter
  split
  · rename_i hzero
    rw [hzero]
    constructor
    · rintro rfl
      exact ⟨by omega, rfl⟩
    · rintro ⟨hsecond, hsame⟩
      exact ext_parts (by omega) hsame
  · rw [hnano]

theorem LiesAfter.before_iff {first last : Instant} {a b : Int} (hfirst : first.LiesAfter now a)
    (hlast : last.LiesAfter now b) : first.before last ↔ a < b := by
  have ha := hfirst.second_eq
  have hb := hlast.second_eq
  rw [Instant.before_iff]
  constructor
  · rintro (hsecond | ⟨hsecond, hnano⟩)
    · omega
    · -- at the same number of minutes it is the same time
      obtain rfl : a = b := by omega
      unfold LiesAfter at hfirst hlast
      split at hfirst
      · rw [if_pos ‹_›] at hlast
        rw [hfirst, hlast] at hnano
        exact absurd hnano (Nat.lt_irrefl _)
      · rw [if_neg ‹_›] at hlast
        omega
  · intro hlt
    exact .inl (by omega)

/-- Minutes after minutes add up, unless they are counted from a leap second. -/
theorem LiesAfter.add_iff {mid : Instant} {a b : Int} (hleap : ¬now.IsLeap)
    (hmid : mid.LiesAfter now a) : later.LiesAfter mid b ↔ later.LiesAfter now (a + b) := by
  obtain ⟨hsecond, hnano⟩ := (liesAfter_of_not_isLeap hleap).mp hmid
  have hleap' : ¬mid.IsLeap := by
    unfold IsLeap
    rw [hnano]
    exact hleap
  rw [liesAfter_of_not_isLeap hleap', liesAfter_of_not_isLeap hleap, hsecond, hnano]
  omega

end Instant

namespace Reminder

open Instant

variable {now trigger : Instant} {minutes : Int}

theorem triggerTime?_eq_ok_iff :
    triggerTime? now minutes = .ok trigger ↔ 0 ≤ minutes ∧ trigger.LiesAfter now minutes := by
  rw [triggerTime?_eq, due?]
  by_cases h : 0 ≤ minutes
  · rw [if_pos h, liesAfter_iff h]
    cases now.addSeconds (60 * minutes) <;> simp [h]
  · simp [h]

theorem triggerTime?_ne_ok (h : ∀ trigger, triggerTime? now minutes ≠ .ok trigger) :
    triggerTime? now minutes = .error (.invalidOffset minutes) := by
  rw [triggerTime?_eq] at h ⊢
  cases hdue : due? now minutes with
  | none => rfl
  | some trigger =>
      rw [hdue] at h
      exact absurd rfl (h trigger)

/-- Nothing overflows on the way to a trigger time in words of 64 bits: the seconds to be added, their
milliseconds and the second that is reached are those of unbounded integers. -/
structure FitsWords (now : Instant) (minutes : Int64) : Prop where
  seconds : (minutes * 60).toInt = 60 * minutes.toInt
  millis : (minutes * 60 * 1000).toInt = 60000 * minutes.toInt
  reached : (Int64.ofInt now.second + minutes * 60).toInt = now.second + 60 * minutes.toInt

theorem fitsWords {minutes : Int64} (h : 0 ≤ minutes.toInt) (hmost : minutes.toInt ≤ maxMinutes)
    (now : Instant) : FitsWords now minutes := by
  have hfirst := now.firstSecond_le
  have hlast := now.le_lastSecond
  unfold firstSecond at hfirst
  unfold lastSecond at hlast
  unfold maxMinutes at hmost
  have hseconds : (minutes * 60).toInt = 60 * minutes.toInt := by
    rw [Int64.toInt_mul, show (60 : Int64).toInt = 60 from rfl, Int.bmod_eq_of_le] <;> omega
  refine ⟨hseconds, ?_, ?_⟩
  · rw [Int64.toInt_mul, hseconds, show (1000 : Int64).toInt = 1000 from rfl,
      Int.bmod_eq_of_le] <;> omega
  · have hnow : (Int64.ofInt now.second).toInt = now.second :=
      Int64.toInt_ofInt_of_le (by omega) (by omega)
    rw [Int64.toInt_add, hseconds, hnow, Int.bmod_eq_of_le] <;> omega

/-- Trigger times are exact. An offset is accepted exactly when it is not negative and its time exists,
which is then the time so many minutes later; nothing overflows before the offset is known to be too
great for a duration. A greater offset gives a later time, and minutes after minutes add up unless they
are counted from a leap second. -/
theorem triggerTime?_exact (now : Instant) :
    (∀ minutes, if 0 ≤ minutes ∧ now.second + 60 * minutes ≤ lastSecond then
        ∃ trigger, triggerTime? now minutes = .ok trigger ∧ trigger.LiesAfter now minutes
      else triggerTime? now minutes = .error (.invalidOffset minutes)) ∧
    (∀ minutes : Int64, 0 ≤ minutes.toInt →
      FitsWords now minutes ∨
        maxInt64 < 60000 * minutes.toInt ∧
          triggerTime? now minutes.toInt = .error (.invalidOffset minutes.toInt)) ∧
    (∀ {a b first last}, triggerTime? now a = .ok first → triggerTime? now b = .ok last →
      (first.before last ↔ a < b)) ∧
    (¬now.IsLeap → ∀ {a b last}, 0 ≤ a → 0 ≤ b → triggerTime? now (a + b) = .ok last →
      ∃ mid, triggerTime? now a = .ok mid ∧ triggerTime? mid b = .ok last) := by
  have haccepts : ∀ minutes, 0 ≤ minutes → now.second + 60 * minutes ≤ lastSecond →
      ∃ trigger, triggerTime? now minutes = .ok trigger ∧ trigger.LiesAfter now minutes := by
    intro minutes hpositive hlast
    obtain ⟨trigger, hlater⟩ := (exists_liesAfter_iff hpositive).mpr hlast
    exact ⟨trigger, triggerTime?_eq_ok_iff.mpr ⟨hpositive, hlater⟩, hlater⟩
  refine ⟨?_, ?_, ?_, ?_⟩
  · intro minutes
    split
    · rename_i hrange
      exact haccepts minutes hrange.1 hrange.2
    · rename_i hrange
      refine triggerTime?_ne_ok fun trigger htrigger => hrange ?_
      obtain ⟨hpositive, hlater⟩ := triggerTime?_eq_ok_iff.mp htrigger
      exact ⟨hpositive, (exists_liesAfter_iff hpositive).mp ⟨trigger, hlater⟩⟩
  · intro minutes hpositive
    by_cases hmost : minutes.toInt ≤ maxMinutes
    · exact .inl (fitsWords hpositive hmost now)
    · refine .inr ⟨?_, ?_⟩
      · unfold maxMinutes at hmost
        unfold maxInt64
        omega
      · rw [triggerTime?, if_neg fun hrange => hmost hrange.2]
  · intro a b first last hfirst hlast
    exact (triggerTime?_eq_ok_iff.mp hfirst).2.before_iff (triggerTime?_eq_ok_iff.mp hlast).2
  · intro hleap a b last ha hb hsum
    obtain ⟨-, hlater⟩ := triggerTime?_eq_ok_iff.mp hsum
    have hend := last.le_lastSecond
    rw [hlater.second_eq] at hend
    obtain ⟨mid, hmid, hafter⟩ := haccepts a ha (by omega)
    exact ⟨mid, hmid, triggerTime?_eq_ok_iff.mpr ⟨hb, (hafter.add_iff hleap).mpr hlater⟩⟩

theorem triggerTime?_exact_noon :
    (¬noon.IsLeap ∧ triggerTime? noon (300 + 420) = .ok midnight ∧
        triggerTime? noon 0 = .ok noon) ∧
      (∃ trigger, triggerTime? noon 720 = .ok trigger ∧ trigger.LiesAfter noon 720) ∧
      (FitsWords noon 720 ∨ maxInt64 < 60000 * (720 : Int64).toInt ∧
        triggerTime? noon (720 : Int64).toInt = .error (.invalidOffset (720 : Int64).toInt)) ∧
      (noon.before midnight ↔ (0 : Int) < 300 + 420) ∧
      ∃ mid, triggerTime? noon 300 = .ok mid ∧ triggerTime? mid 420 = .ok midnight := by
  have hleap : ¬noon.IsLeap := by decide
  have hsum : triggerTime? noon (300 + 420) = .ok midnight := rfl
  have hzero : triggerTime? noon 0 = .ok noon := rfl
  obtain ⟨hdue, hwords, horder, hadd⟩ := triggerTime?_exact noon
  have hrange : 0 ≤ (720 : Int) ∧ noon.second + 60 * 720 ≤ lastSecond := by decide
  have hnext := hdue 720
  rw [if_pos hrange] at hnext
  exact ⟨⟨hleap, hsum, hzero⟩, hnext, hwords 720 (by decide), horder hzero hsum,
    hadd hleap (by decide) (by decide) hsum⟩

end Reminder

end Daybook
