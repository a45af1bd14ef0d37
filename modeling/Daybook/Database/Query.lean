import Daybook.Database.Opening

namespace Daybook.Disk

/-- The body of a database stood at a place where another database has its log now, and something has
been written to the log. -/
def isBuried (disk : Disk) (number : Nat) (place : Place) : Bool :=
  match disk.find? place with
  | some (.part n .log _ _) =>
      ((disk.database? n).map fun db => db.under == some number && db.log != .nothing).getD false
  | _ => false

/-- The body of a database has been overwritten where it stands, by another program or by the log of
another database, and its own log holds nothing that could stand in for it. -/
def isDamaged (disk : Disk) (number : Nat) (db : Database) : Bool :=
  match db.home with
  | some place =>
      db.log = .nothing ∧ (disk.isOverwritten number .body place ∨ disk.isBuried number place)
  | none => false

def hasOverwrittenLog (disk : Disk) (number : Nat) (db : Database) : Bool :=
  match db.home with
  | some place => disk.isOverwritten number .log (logPlace place)
  | none => false

/-- The tables of a database as its users see them. A single user need not read what it has written to
the log; several users read what the others have written. -/
def tables (disk : Disk) (c : Connection) : Except DatabaseFault Tables :=
  match disk.database? c.number with
  | none => .error .notDatabase
  | some db =>
      if disk.isDamaged c.number db then .error .damaged
      else if 1 < db.users && db.log != .nothing && disk.hasOverwrittenLog c.number db then
        .error .diskFault
      else .ok db.tables

def taskTable (disk : Disk) (c : Connection) : Except DatabaseFault TaskTable := do
  match (← disk.tables c).tasks with
  | some table => return table
  | none => .error (.missingTable "tasks")

def reminderTable (disk : Disk) (c : Connection) : Except DatabaseFault ReminderTable := do
  match (← disk.tables c).reminders with
  | some table => return table
  | none => .error (.missingTable "reminders")

/-- The body of a database that has no log no longer stands where it was. -/
def hasLostBody (disk : Disk) (number : Nat) (db : Database) : Bool :=
  match db.home with
  | some place => !db.logged && !disk.holdsPart number .body place
  | none => false

/-- A database can take other tables. One without a log can not once its body is gone. -/
def canCommit (disk : Disk) (c : Connection) : Bool :=
  match disk.database? c.number with
  | some db => !disk.hasLostBody c.number db
  | none => false

/-- What is written to a log goes over what others have put there. -/
def refreshLog (disk : Disk) (number : Nat) (db : Database) : Disk :=
  match db.home with
  | none => disk
  | some place =>
      if disk.holdsPart number .log (logPlace place) then
        disk.put (logPlace place) (.part number .log true [])
      else disk

def commit (disk : Disk) (c : Connection) (change : Tables → Tables) : Disk :=
  match disk.database? c.number with
  | none => disk
  | some db =>
      let db := db.commit (change db.tables) (disk.hasOverwrittenLog c.number db)
      (disk.putDatabase c.number db).refreshLog c.number db

def putTasks (disk : Disk) (c : Connection) (table : TaskTable) : Disk :=
  disk.commit c fun tables => { tables with tasks := some table }

def putReminders (disk : Disk) (c : Connection) (table : ReminderTable) : Disk :=
  disk.commit c fun tables => { tables with reminders := some table }

/-- Opens the database at a path, in a directory that is made when it is missing, and adds a table if
it lacks it. -/
def openWith (disk : Disk) (path : String) (lacks : Tables → Bool) (add : Tables → Tables) :
    Except Error Connection × Disk :=
  match disk.ensureParent path with
  | (.error fault, disk) => (.error (.file fault), disk)
  | (.ok (), disk) =>
      match disk.connect path with
      | (.error fault, disk) => (.error (.database fault), disk)
      | (.ok c, disk) =>
          match disk.tables c with
          | .error fault => (.error (.database fault), disk.disconnect c)
          | .ok tables =>
              if !lacks tables then (.ok c, disk)
              else if c.writable then (.ok c, disk.commit c add)
              else (.error (.database .readOnly), disk.disconnect c)

/-- Opens the database at a path and gives it a table of tasks, unless it has one. -/
def openTasks (disk : Disk) (path : String) : Except Error Connection × Disk :=
  disk.openWith path (·.tasks.isNone) fun tables => { tables with tasks := some .empty }

/-- Opens the database at a path and gives it a table of reminders, unless it has one. -/
def openReminders (disk : Disk) (path : String) : Except Error Connection × Disk :=
  disk.openWith path (·.reminders.isNone) fun tables => { tables with reminders := some .empty }

def queryTasks {α : Type} (disk : Disk) (c : Connection) (f : TaskTable → Except Error α) :
    Except Error α :=
  match disk.taskTable c with
  | .ok table => f table
  | .error fault => .error (.database fault)

def queryReminders {α : Type} (disk : Disk) (c : Connection)
    (f : ReminderTable → Except Error α) : Except Error α :=
  match disk.reminderTable c with
  | .ok table => f table
  | .error fault => .error (.database fault)

/-- A change is only tried where changes are allowed. -/
def ifWritable {α : Type} (c : Connection) (result : Except Error α) : Except Error α :=
  if c.writable then result else .error (.database .readOnly)

/-- Changes the table of tasks, unless the change fails. -/
def changeTasks {α : Type} (disk : Disk) (c : Connection)
    (f : TaskTable → Except Error (α × TaskTable)) : Except Error α × Disk :=
  match disk.queryTasks c fun table => ifWritable c (f table) with
  | .ok (a, table) =>
      if disk.canCommit c then (.ok a, disk.putTasks c table)
      else (.error (.database .readOnly), disk)
  | .error e => (.error e, disk)

/-- Changes the table of reminders, unless the change fails. -/
def changeReminders {α : Type} (disk : Disk) (c : Connection)
    (f : ReminderTable → Except Error (α × ReminderTable)) : Except Error α × Disk :=
  match disk.queryReminders c fun table => ifWritable c (f table) with
  | .ok (a, table) =>
      if disk.canCommit c then (.ok a, disk.putReminders c table)
      else (.error (.database .readOnly), disk)
  | .error e => (.error e, disk)

end Daybook.Disk
