import Daybook.Disk.Basic
import Daybook.Json.Parser
import Daybook.Json.Render
import Daybook.Json.View
import Daybook.Text.Utf8

/-!
The bytes of a database in a file of the machine: a line of JSON with the rows of both tables and the
last identifiers given out.
-/

namespace Daybook

/-- A text that may be missing, as a JSON value. -/
def optionalText : Option String → Json
  | some s => .str s
  | none => .null

/-- A JSON value as a text that may be missing. -/
def optionalText? : Json → Option (Option String)
  | .null => some none
  | .str s => some (some s)
  | _ => none

def TaskRow.toJson (row : TaskRow) : Json :=
  .arr [.int row.id, .str row.title, optionalText row.description, .str row.priority,
    .str row.status, .str row.createdAt, optionalText row.completedAt]

/-- The row of the table of tasks that a JSON value stands for. -/
def TaskRow.ofJson? : Json → Option TaskRow
  | .arr [.int id, .str title, description, .str priority, .str status, .str createdAt,
      completedAt] => do
      return ⟨id, title, ← optionalText? description, priority, status, createdAt,
        ← optionalText? completedAt⟩
  | _ => none

def ReminderRow.toJson (row : ReminderRow) : Json :=
  .arr [.int row.id, .str row.title, .str row.triggerTime, .str row.status, .str row.createdAt]

/-- The row of the table of reminders that a JSON value stands for. -/
def ReminderRow.ofJson? : Json → Option ReminderRow
  | .arr [.int id, .str title, .str triggerTime, .str status, .str createdAt] =>
      some ⟨id, title, triggerTime, status, createdAt⟩
  | _ => none

/-- A table that may be missing, as a JSON value: its last identifier and its rows. -/
def tableImage {α : Type} (row : α → Json) : Option (Int × List α) → Json
  | some (lastId, rows) => .arr [.int lastId, .arr (rows.map row)]
  | none => .null

/-- The table that a JSON value stands for. -/
def tableOfImage? {α : Type} (row? : Json → Option α) : Json → Option (Option (Int × List α))
  | .null => some none
  | .arr [.int lastId, .arr rows] => do return some (lastId, ← rows.mapM row?)
  | _ => none

namespace Tables

def toBytes (tables : Tables) : List UInt8 :=
  let tasks := tableImage TaskRow.toJson (tables.tasks.map fun t => (t.lastId, t.rows))
  let reminders := tableImage ReminderRow.toJson (tables.reminders.map fun t => (t.lastId, t.rows))
  Utf8.encode ((Json.obj [("reminders", reminders), ("tasks", tasks)]).render ++ ['\n'])

def ofJson? (image : Json) : Option Tables := do
  match ← image.asRecord? ["reminders", "tasks"] with
  | [reminders, tasks] =>
      let reminders ← tableOfImage? ReminderRow.ofJson? reminders
      let tasks ← tableOfImage? TaskRow.ofJson? tasks
      return ⟨tasks.map fun (lastId, rows) => ⟨rows, lastId⟩,
        reminders.map fun (lastId, rows) => ⟨rows, lastId⟩⟩
  | _ => none

def ofBytes? (bytes : List UInt8) : Option Tables := do
  let text ← Utf8.decode? bytes
  ofJson? (← (Json.parse text).toOption)

end Tables

namespace Disk

/-- The bytes of an entry in a file of the machine. What stands beside the body of a database has
none. -/
def image? (disk : Disk) : Entry → Option (List UInt8)
  | .directory => none
  | .file bytes => some bytes
  | .part number .body _ _ => (disk.database? number).map fun db => db.tables.toBytes
  | .part _ .log _ _ | .part _ .index _ _ => none

/-- The disk with a file of the machine at a place. Where a database is kept the bytes may be those of
one. -/
def putImage (disk : Disk) (place : Place) (keepsDatabase : Bool) (bytes : List UInt8) : Disk :=
  match if keepsDatabase then Tables.ofBytes? bytes else none with
  | some tables =>
      let (number, disk) := disk.addDatabase (.atRest tables place true)
      disk.put place (.part number .body true [])
  | none => disk.put place (.file bytes)

end Disk

end Daybook
