import Daybook.Config.Basic
import Daybook.Database.Query
import Daybook.Note.Log

namespace Daybook

/-- What leads to the records of a daybook. -/
structure Store where
  notes : NoteLog
  tasks : Connection
  reminders : Connection
deriving DecidableEq, Repr

namespace Store

/-- Opens all files of a configuration: first the state directory, then the tasks, then the
reminders. What is missing is made, but for the log of notes. When one of them cannot be opened the
others are left. -/
def openAt (config : Config) (disk : Disk) : Except Error Store × Disk :=
  match disk.makeDirectories config.stateDir with
  | (.error fault, disk) => (.error (.file fault), disk)
  | (.ok (), disk) =>
      match disk.openTasks config.tasksPath with
      | (.error e, disk) => (.error e, disk)
      | (.ok tasks, disk) =>
          match disk.openReminders config.remindersPath with
          | (.error e, disk) => (.error e, disk.disconnect tasks)
          | (.ok reminders, disk) => (.ok ⟨⟨config.notesPath⟩, tasks, reminders⟩, disk)

def close (store : Store) (disk : Disk) : Disk :=
  (disk.disconnect store.tasks).disconnect store.reminders

def appendNote (store : Store) (content : String) (now : Instant) (disk : Disk) :
    Except Error Unit × Disk :=
  match store.notes.append content now disk with
  | .ok disk => (.ok (), disk)
  | .error e => (.error e, disk)

def searchNotes (store : Store) (query : String) (limit : Nat) (disk : Disk) :
    Except Error (List NoteMatch) := store.notes.search query limit disk

def readNotes (store : Store) (disk : Disk) : Except Error (List NoteEntry) :=
  store.notes.entries disk

/-- Makes a task and returns its identifier. A blank title is refused before the table is looked
at. -/
def createTask (store : Store) (task : NewTask) (now : Instant) (disk : Disk) :
    Except Error Int × Disk :=
  match task.validate with
  | .error e => (.error e, disk)
  | .ok () => disk.changeTasks store.tasks fun table => table.create task now

def getTask (store : Store) (id : Int) (disk : Disk) : Except Error Task :=
  disk.queryTasks store.tasks fun table => table.get id

def listPendingTasks (store : Store) (disk : Disk) : Except Error (List Task) :=
  disk.queryTasks store.tasks TaskTable.listPending

def completeTask (store : Store) (id : Int) (now : Instant) (disk : Disk) :
    Except Error Unit × Disk :=
  disk.changeTasks store.tasks fun table => (table.complete id now).map fun table => ((), table)

/-- Makes a reminder that is due in some minutes, and reads it back. The minutes and then the title are
looked at before the table is. -/
def createReminder (store : Store) (title : String) (minutes : Int) (now : Instant)
    (disk : Disk) : Except Error Reminder × Disk :=
  match Reminder.triggerTime? now minutes with
  | .error e => (.error e, disk)
  | .ok trigger =>
      if isBlankText title then (.error .emptyTitle, disk)
      else
        match disk.changeReminders store.reminders fun table => table.create title trigger now with
        | (.error e, disk) => (.error e, disk)
        | (.ok id, disk) => (disk.queryReminders store.reminders fun table => table.get id, disk)

def getReminder (store : Store) (id : Int) (disk : Disk) : Except Error Reminder :=
  disk.queryReminders store.reminders fun table => table.get id

/-- The reminders that are still to come, the soonest first. -/
def listActiveReminders (store : Store) (disk : Disk) : Except Error (List Reminder) :=
  disk.queryReminders store.reminders ReminderTable.listActive

def cancelReminder (store : Store) (id : Int) (disk : Disk) : Except Error Unit × Disk :=
  disk.changeReminders store.reminders fun table => (table.cancel id).map fun table => ((), table)

end Store

end Daybook
