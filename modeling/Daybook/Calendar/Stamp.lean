import Daybook.Calendar.Date
import Daybook.Calendar.Instant
import Daybook.Text.Digits

namespace Daybook

/-- A date and a time of day. Second 60 is a leap second. -/
structure Stamp where
  date : Date
  hour : Nat
  minute : Nat
  second : Nat
  nano : Nat
deriving DecidableEq, Repr

/-- The fields of an instant in universal time. -/
def Instant.stamp (t : Instant) : Stamp :=
  let ofDay := (t.second % 86400).toNat
  ⟨Date.ofDay (t.second / 86400), ofDay / 3600, ofDay / 60 % 60,
    ofDay % 60 + t.nano / nanosPerSecond, t.nano % nanosPerSecond⟩

namespace Stamp

/-- The date exists, in a year that instants have, and so does the time of day. -/
def IsValid (s : Stamp) : Prop :=
  s.date.IsValid ∧ -262143 ≤ s.date.year ∧ s.date.year ≤ 262142 ∧ s.hour < 24 ∧ s.minute < 60 ∧
    s.second ≤ 60 ∧ s.nano < nanosPerSecond

instance (s : Stamp) : Decidable s.IsValid := by unfold IsValid; infer_instance

/-- The instant of a stamp on a clock that runs `offset` seconds before universal time. -/
def instant? (s : Stamp) (offset : Int) : Option Instant :=
  if s.IsValid then
    Instant.ofParts?
      (s.date.toDay * 86400 + s.hour * 3600 + s.minute * 60 + min s.second 59 - offset)
      (s.nano + if s.second = 60 then nanosPerSecond else 0)
  else none

/-- A year: four digits from 0 to 9999, otherwise a sign and at least four digits. -/
def yearText (year : Int) : List Char :=
  if 0 ≤ year ∧ year ≤ 9999 then Digits.fixed 4 year.toNat
  else
    (if year < 0 then '-' else '+') ::
      (if year.natAbs ≤ 9999 then Digits.fixed 4 year.natAbs else Digits.decimal year.natAbs)

def dateText (s : Stamp) : List Char :=
  yearText s.date.year ++ '-' :: Digits.fixed 2 s.date.month ++ '-' :: Digits.fixed 2 s.date.day

def clockText (s : Stamp) : List Char :=
  Digits.fixed 2 s.hour ++ ':' :: Digits.fixed 2 s.minute ++ ':' :: Digits.fixed 2 s.second

/-- The fraction of a second with the fewest of 0, 3, 6 and 9 digits that are exact. -/
def fractionText (s : Stamp) : List Char :=
  if s.nano = 0 then []
  else if s.nano % 1000000 = 0 then '.' :: Digits.fixed 3 (s.nano / 1000000)
  else if s.nano % 1000 = 0 then '.' :: Digits.fixed 6 (s.nano / 1000)
  else '.' :: Digits.fixed 9 s.nano

end Stamp

namespace Instant

/-- The time over a note: date and time of day with a blank between them, to the second. -/
def headingText (t : Instant) : List Char := t.stamp.dateText ++ ' ' :: t.stamp.clockText

/-- The time in an answer. -/
def wireText (t : Instant) : List Char :=
  t.stamp.dateText ++ 'T' :: t.stamp.clockText ++ t.stamp.fractionText ++ ['Z']

/-- The time of an event in a table. -/
def storedText (t : Instant) : List Char :=
  t.stamp.dateText ++ 'T' :: t.stamp.clockText ++ t.stamp.fractionText ++
    ['+', '0', '0', ':', '0', '0']

/-- The time that a table is ordered by, which has the same length for every year from 0 to 9999. -/
def sortableText (t : Instant) : List Char :=
  t.stamp.dateText ++ 'T' :: t.stamp.clockText ++ '.' :: Digits.fixed 9 t.stamp.nano ++ ['Z']

end Instant

end Daybook
