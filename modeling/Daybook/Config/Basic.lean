import Daybook.Disk.Path
import Daybook.Json.Basic

namespace Daybook

/-- The configuration of a daybook. The names of the three files are seen from the state directory. -/
structure Config where
  stateDir : String
  notesFile : String := "notes.md"
  tasksDb : String := "tasks.db"
  remindersDb : String := "reminders.db"
  searchLimit : Nat := 5
  defaultMinutes : Int := 5
  maxLineBytes : Nat := 1048576
deriving DecidableEq, Repr

namespace Config

def notesPath (config : Config) : String := Path.join config.stateDir config.notesFile

def tasksPath (config : Config) : String := Path.join config.stateDir config.tasksDb

def remindersPath (config : Config) : String := Path.join config.stateDir config.remindersDb

end Config

/-- A value that a setting can have. -/
inductive Setting where
  | text (s : String)
  | integer (n : Int)
deriving DecidableEq, Repr

/-- The configuration with one setting changed, if there is such a setting and it can have the
value. -/
def Config.set? (config : Config) (key : String) (value : Setting) : Option Config :=
  match key, value with
  | "notes_file", .text s => some { config with notesFile := s }
  | "tasks_db", .text s => some { config with tasksDb := s }
  | "reminders_db", .text s => some { config with remindersDb := s }
  | "search_limit", .integer n =>
      if 0 ≤ n ∧ n ≤ maxNat64 then some { config with searchLimit := n.toNat } else none
  | "default_reminder_minutes", .integer n =>
      if minInt64 ≤ n ∧ n ≤ maxInt64 then some { config with defaultMinutes := n } else none
  | "max_line_bytes", .integer n =>
      if 0 ≤ n ∧ n ≤ maxNat64 then some { config with maxLineBytes := n.toNat } else none
  | _, _ => none

end Daybook
