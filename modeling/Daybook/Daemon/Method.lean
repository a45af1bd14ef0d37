namespace Daybook

inductive Method where
  | takeNote
  | searchNotes
  | createTask
  | listTasks
  | completeTask
  | createReminder
  | listReminders
  | cancelReminder
deriving DecidableEq, Repr

namespace Method

def all : List Method :=
  [cancelReminder, completeTask, createReminder, createTask, listReminders, listTasks, searchNotes,
    takeNote]

def name : Method → String
  | takeNote => "take_note"
  | searchNotes => "search_notes"
  | createTask => "create_task"
  | listTasks => "list_tasks"
  | completeTask => "complete_task"
  | createReminder => "create_reminder"
  | listReminders => "list_reminders"
  | cancelReminder => "cancel_reminder"

def ofName? (text : String) : Option Method := all.find? fun m => m.name == text

/-- The names of the parameters that a method looks at. -/
def parameters : Method → List String
  | takeNote => ["content"]
  | searchNotes => ["query", "limit"]
  | createTask => ["title", "priority", "description"]
  | listTasks => []
  | completeTask => ["task_id"]
  | createReminder => ["title", "minutes"]
  | listReminders => []
  | cancelReminder => ["reminder_id"]

theorem ofName?_name (m : Method) : ofName? m.name = some m := by cases m <;> decide

end Method

end Daybook
