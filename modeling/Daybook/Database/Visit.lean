import Daybook.Database.Query

namespace Daybook.Disk

/-- Looks at a table in passing. What cannot be found is nothing. -/
def peek {τ α : Type} (disk : Disk) (path : String)
    (table : Disk → Connection → Except DatabaseFault τ) (look : τ → Option α) :
    Option α × Disk :=
  match disk.visit path with
  | (.ok (some c), disk) => ((table disk c).toOption.bind look, disk.disconnect c)
  | (_, disk) => (none, disk)

/-- Changes a table in passing and returns the number of rows that were changed. Nothing is written
for none. -/
def edit {τ : Type} (disk : Disk) (path name : String)
    (table : Disk → Connection → Except DatabaseFault τ) (put : Disk → Connection → τ → Disk)
    (f : τ → Except DatabaseFault (Nat × τ)) : Except DatabaseFault Nat × Disk :=
  match disk.visit path with
  | (.error fault, disk) => (.error fault, disk)
  | (.ok none, disk) => (.error (.missingTable name), disk)
  | (.ok (some c), disk) =>
      let result := do
        let found ← table disk c
        if c.writable then f found else .error .readOnly
      match result with
      | .error fault => (.error fault, disk.disconnect c)
      | .ok (0, _) => (.ok 0, disk.disconnect c)
      | .ok (n, changed) => (.ok n, (put disk c changed).disconnect c)

/-- The row of a task as another program sees it. -/
def peekTask (disk : Disk) (path : String) (id : Int) : Option TaskRow × Disk :=
  disk.peek path taskTable (·.row? id)

/-- The row of a reminder as another program sees it. -/
def peekReminder (disk : Disk) (path : String) (id : Int) : Option ReminderRow × Disk :=
  disk.peek path reminderTable (·.row? id)

def editTasks (disk : Disk) (path : String)
    (f : TaskTable → Except DatabaseFault (Nat × TaskTable)) : Except DatabaseFault Nat × Disk :=
  disk.edit path "tasks" taskTable putTasks f

def editReminders (disk : Disk) (path : String)
    (f : ReminderTable → Except DatabaseFault (Nat × ReminderTable)) :
    Except DatabaseFault Nat × Disk :=
  disk.edit path "reminders" reminderTable putReminders f

end Daybook.Disk
