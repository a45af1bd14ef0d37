import Daybook.Calendar.Instant
import Daybook.Error
import Daybook.Text.Blank
import Daybook.Text.Lower

namespace Daybook

/-- How urgent a task is. A task is of medium priority when nothing is said. -/
inductive Priority where
  | low
  | medium
  | high
deriving DecidableEq, Repr

namespace Priority

/-- All priorities, from the least urgent on. -/
def all : List Priority := [low, medium, high]

def name : Priority → String
  | low => "low"
  | medium => "medium"
  | high => "high"

/-- The number of priorities that are less urgent. -/
def rank : Priority → Nat
  | low => 0
  | medium => 1
  | high => 2

def ofName? (text : String) : Option Priority := all.find? fun p => p.name == text

/-- Reads a priority in any mixture of cases. -/
def parse (text : String) : Except Error Priority :=
  match ofName? (String.ofList (Case.lower text.toList)) with
  | some p => .ok p
  | none => .error (.invalidPriority text)

theorem ofName?_name (p : Priority) : ofName? p.name = some p := by cases p <;> decide

end Priority

/-- Whether a task is still to be done. Completion is for good. -/
inductive TaskStatus where
  | pending
  | completed
deriving DecidableEq, Repr

namespace TaskStatus

def all : List TaskStatus := [pending, completed]

def name : TaskStatus → String
  | pending => "pending"
  | completed => "completed"

/-- Reads a status, which is written in lower case only. -/
def parse (text : String) : Except Error TaskStatus :=
  match all.find? fun s => s.name == text with
  | some s => .ok s
  | none => .error (.invalidStatus text)

theorem parse_name (s : TaskStatus) : parse s.name = .ok s := by cases s <;> rfl

end TaskStatus

structure Task where
  id : Int
  title : String
  description : Option String
  priority : Priority
  status : TaskStatus
  createdAt : Instant
  completedAt : Option Instant
deriving DecidableEq, Repr

/-- What a caller says of a new task. -/
structure NewTask where
  title : String
  description : Option String := none
  priority : Priority := .medium
deriving DecidableEq, Repr

def NewTask.validate (task : NewTask) : Except Error Unit :=
  if isBlankText task.title then .error .emptyTitle else .ok ()

end Daybook
