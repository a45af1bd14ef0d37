import Daybook.Calendar.Instant
import Daybook.Error

namespace Daybook

/-- Where a reminder stands. -/
inductive ReminderStatus where
  | active
  | fired
  | cancelled
deriving DecidableEq, Repr

namespace ReminderStatus

def all : List ReminderStatus := [active, fired, cancelled]

def name : ReminderStatus → String
  | active => "active"
  | fired => "fired"
  | cancelled => "cancelled"

def ofName? (text : String) : Option ReminderStatus := all.find? fun s => s.name == text

/-- Reads a status, which is written in lower case only. -/
def parse (text : String) : Except Error ReminderStatus :=
  match ofName? text with
  | some s => .ok s
  | none => .error (.invalidStatus text)

def canCancel : ReminderStatus → Bool
  | fired => false
  | active | cancelled => true

theorem ofName?_name (s : ReminderStatus) : ofName? s.name = some s := by cases s <;> decide

end ReminderStatus

structure Reminder where
  id : Int
  title : String
  triggerTime : Instant
  status : ReminderStatus
  createdAt : Instant
deriving DecidableEq, Repr

namespace Reminder

/-- The greatest number of minutes whose milliseconds fit 64 bits. -/
def maxMinutes : Int := 153722867280912

/-- The time at which a reminder is due that is made `minutes` before it. -/
def triggerTime? (now : Instant) (minutes : Int) : Except Error Instant :=
  if 0 ≤ minutes ∧ minutes ≤ maxMinutes then
    match now.addSeconds (60 * minutes) with
    | some t => .ok t
    | none => .error (.invalidOffset minutes)
  else .error (.invalidOffset minutes)

end Reminder

end Daybook
