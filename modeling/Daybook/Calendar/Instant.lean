namespace Daybook

/-- The second at which year -262143 begins. -/
def firstSecond : Int := -8334601228800

/-- The last second of year 262142. -/
def lastSecond : Int := 8210266876799

def nanosPerSecond : Nat := 1000000000

/-- An instant: seconds since 1 January 1970 and nanoseconds since that second. -/
structure Instant where
  second : Int
  nano : Nat
  firstSecond_le : firstSecond ≤ second
  le_lastSecond : second ≤ lastSecond
  nano_lt : nano < 2 * nanosPerSecond
  second_of_leap : nanosPerSecond ≤ nano → second % 60 = 59
deriving DecidableEq, Repr

namespace Instant

theorem ext_parts {a b : Instant} (hs : a.second = b.second) (hn : a.nano = b.nano) : a = b := by
  cases a
  cases b
  cases hs
  cases hn
  rfl

def ofParts? (second : Int) (nano : Nat) : Option Instant :=
  if h : firstSecond ≤ second ∧ second ≤ lastSecond ∧ nano < 2 * nanosPerSecond ∧
      (nanosPerSecond ≤ nano → second % 60 = 59) then
    some ⟨second, nano, h.1, h.2.1, h.2.2.1, h.2.2.2⟩
  else none

def IsLeap (t : Instant) : Prop := nanosPerSecond ≤ t.nano

instance (t : Instant) : Decidable t.IsLeap := by unfold IsLeap; infer_instance

def before (a b : Instant) : Bool :=
  a.second < b.second || (a.second == b.second && a.nano < b.nano)

/-- The instant some seconds later, or earlier when their number is negative. A leap second stays as
it is when nothing is added, and is otherwise left like an ordinary second that lasts two. -/
def addSeconds (t : Instant) (seconds : Int) : Option Instant :=
  if seconds = 0 then some t
  else if t.nano < nanosPerSecond then ofParts? (t.second + seconds) t.nano
  else if 0 < seconds then ofParts? (t.second + seconds) (t.nano - nanosPerSecond)
  else ofParts? (t.second + seconds + 1) (t.nano - nanosPerSecond)

/-- The greatest number of seconds by which a clock is moved: the most whose milliseconds fit 64
bits. -/
def maxStep : Int := 9223372036854775

/-- Why a clock is not moved: the step is too long, or no instant lies there. -/
inductive StepFault where
  | tooLong
  | outOfRange
deriving DecidableEq, Repr

/-- The time on a clock that is moved by some seconds, or back when their number is negative. -/
def step (t : Instant) (seconds : Int) : Except StepFault Instant :=
  if maxStep < seconds.natAbs then .error .tooLong
  else
    match t.addSeconds seconds with
    | some later => .ok later
    | none => .error .outOfRange

theorem ofParts?_self (t : Instant) : ofParts? t.second t.nano = some t := by
  have h : firstSecond ≤ t.second ∧ t.second ≤ lastSecond ∧ t.nano < 2 * nanosPerSecond ∧
      (nanosPerSecond ≤ t.nano → t.second % 60 = 59) :=
    ⟨t.firstSecond_le, t.le_lastSecond, t.nano_lt, t.second_of_leap⟩
  rw [ofParts?, dif_pos h]

theorem parts_of_ofParts? {second : Int} {nano : Nat} {t : Instant}
    (h : ofParts? second nano = some t) : t.second = second ∧ t.nano = nano := by
  unfold ofParts? at h
  split at h
  · cases h
    exact ⟨rfl, rfl⟩
  · cases h

end Instant

end Daybook
