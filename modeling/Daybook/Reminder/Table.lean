import Daybook.Column
import Daybook.Reminder.Basic
import Daybook.Text.Blank

namespace Daybook

/-- A row of the table of reminders: its identifier and its columns. -/
structure ReminderRow where
  id : Int
  title : String
  triggerTime : String
  status : String
  createdAt : String
deriving DecidableEq, Repr

/-- The reminder of a row. The first column that cannot be read is at fault. -/
def ReminderRow.read (row : ReminderRow) : Except Error Reminder := do
  let triggerTime ← readTime row.triggerTime "trigger_time"
  let status ← readValue (ReminderStatus.parse row.status) row.status "status"
  let createdAt ← readTime row.createdAt "created_at"
  return ⟨row.id, row.title, triggerTime, status, createdAt⟩

/-- The order of a list of reminders: by the text of the trigger time, then by identifier. -/
def ReminderRow.comesBefore (a b : ReminderRow) : Bool :=
  a.triggerTime < b.triggerTime || (a.triggerTime == b.triggerTime && a.id ≤ b.id)

/-- The rows in the order of their identifiers, and the last identifier that was given out. -/
structure ReminderTable where
  rows : List ReminderRow
  lastId : Int
deriving DecidableEq, Repr

namespace ReminderTable

def empty : ReminderTable := ⟨[], 0⟩

/-- Enters an active reminder and returns its identifier. -/
def create (table : ReminderTable) (title : String) (trigger now : Instant) :
    Except Error (Int × ReminderTable) :=
  if isBlankText title then .error .emptyTitle
  else
    let id := table.lastId + 1
    let row : ReminderRow :=
      ⟨id, title, String.ofList trigger.sortableText, ReminderStatus.active.name,
        String.ofList now.storedText⟩
    .ok (id, ⟨table.rows ++ [row], id⟩)

def row? (table : ReminderTable) (id : Int) : Option ReminderRow := table.rows.find? (·.id == id)

def get (table : ReminderTable) (id : Int) : Except Error Reminder :=
  match table.row? id with
  | some row => row.read
  | none => .error (.reminderNotFound id)

/-- The active reminders, the soonest first. -/
def listActive (table : ReminderTable) : Except Error (List Reminder) :=
  ((table.rows.filter (·.status == ReminderStatus.active.name)).mergeSort
    ReminderRow.comesBefore).mapM ReminderRow.read

def modify (table : ReminderTable) (id : Int) (f : ReminderRow → ReminderRow) : ReminderTable :=
  ⟨table.rows.map fun row => if row.id = id then f row else row, table.lastId⟩

/-- Cancels a reminder that has not fired. Only the text of the status is looked at, unless it is the
one of a fired reminder; then the row is read to say from which status there is no way. -/
def cancel (table : ReminderTable) (id : Int) : Except Error ReminderTable :=
  match table.row? id with
  | none => .error (.reminderNotFound id)
  | some row =>
      if row.status == ReminderStatus.fired.name then do
        let reminder ← row.read
        .error (.invalidTransition reminder.status.name ReminderStatus.cancelled.name)
      else
        .ok <| table.modify id fun row => { row with status := ReminderStatus.cancelled.name }

end ReminderTable

inductive ReminderColumn where
  | title
  | triggerTime
  | status
  | createdAt
deriving DecidableEq, Repr

namespace ReminderColumn

def all : List ReminderColumn := [title, triggerTime, status, createdAt]

def name : ReminderColumn → String
  | title => "title"
  | triggerTime => "trigger_time"
  | status => "status"
  | createdAt => "created_at"

def ofName? (text : String) : Option ReminderColumn := all.find? fun c => c.name == text

end ReminderColumn

namespace ReminderRow

def column (row : ReminderRow) : ReminderColumn → String
  | .title => row.title
  | .triggerTime => row.triggerTime
  | .status => row.status
  | .createdAt => row.createdAt

/-- The row with another text in a column. No column may be without one. -/
def setColumn (row : ReminderRow) (column : ReminderColumn) (value : Option String) :
    Except DatabaseFault ReminderRow :=
  match column, value with
  | .title, some text => .ok { row with title := text }
  | .triggerTime, some text => .ok { row with triggerTime := text }
  | .status, some text => .ok { row with status := text }
  | .createdAt, some text => .ok { row with createdAt := text }
  | column, none => .error (.nullForbidden ("reminders." ++ column.name))

end ReminderRow

namespace ReminderTable

/-- Writes a text to a column of a row, as another program may. Returns the number of rows that were
changed. -/
def setColumn (table : ReminderTable) (id : Int) (column : ReminderColumn)
    (value : Option String) : Except DatabaseFault (Nat × ReminderTable) :=
  match table.row? id with
  | none => .ok (0, table)
  | some row => (row.setColumn column value).map fun row => (1, table.modify id fun _ => row)

/-- Takes a row away, as another program may. Returns the number of rows that were taken. -/
def deleteRow (table : ReminderTable) (id : Int) : Nat × ReminderTable :=
  match table.row? id with
  | none => (0, table)
  | some _ => (1, ⟨table.rows.filter (·.id != id), table.lastId⟩)

end ReminderTable

end Daybook
