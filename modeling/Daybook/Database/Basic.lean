import Daybook.Disk.Path
import Daybook.Reminder.Table
import Daybook.Task.Table

/-!
Databases. A database lives in memory or has a home on the disk, a place where its body stands. Beside
the body of one that is in use there may be a log with what has been changed, and an index of the log.
The log is put into the body when the last user leaves.
-/

namespace Daybook

/-- The tables of a database. A database need not have both. -/
structure Tables where
  tasks : Option TaskTable := none
  reminders : Option ReminderTable := none
deriving DecidableEq, Repr

def Tables.empty : Tables := ⟨none, none⟩

def Tables.isEmpty (tables : Tables) : Bool := tables.tasks.isNone && tables.reminders.isNone

inductive Part where
  | body
  | log
  | index
deriving DecidableEq, Repr

/-- What a log has that the body has not: nothing, some changes, all there is, or all there is but for
its beginning, which has been overwritten. -/
inductive LogReach where
  | nothing
  | changes
  | everything
  | remainder
deriving DecidableEq, Repr

/-- A database: its tables as its users see them and as its body holds them, the place of its body
unless it lives in memory, the name under which one in memory is shared, whether it is changed through
a log, what the log has that the body has not, the number of its users, and the database whose body was
there when its log was begun, if one was. -/
structure Database where
  tables : Tables
  saved : Tables
  home : Option Place
  name : Option String
  logged : Bool
  log : LogReach
  users : Nat
  under : Option Nat
deriving DecidableEq, Repr

namespace Database

def inMemory (tables : Tables) (name : Option String) : Database :=
  ⟨tables, tables, none, name, false, .nothing, 1, none⟩

/-- A database whose body stands at a place and which no one uses. -/
def atRest (tables : Tables) (place : Place) (logged : Bool) : Database :=
  ⟨tables, tables, some place, none, logged, .nothing, 0, none⟩

def isOpen (db : Database) : Bool := 0 < db.users

def enter (db : Database) : Database := { db with users := db.users + 1 }

def leave (db : Database) : Database := { db with users := db.users - 1 }

/-- What the log holds after a change, where it may have been overwritten before. The first table of a
database makes it hold everything. -/
def reachAfter (db : Database) (overwritten : Bool) : LogReach :=
  if db.tables.isEmpty then .everything
  else
    match db.log with
    | .nothing | .changes => .changes
    | .everything => if overwritten then .remainder else .everything
    | .remainder => .remainder

def commit (db : Database) (tables : Tables) (overwritten : Bool) : Database :=
  if db.logged then { db with tables, log := db.reachAfter overwritten }
  else { db with tables, saved := tables }

/-- The database with all that its log holds put into its body. -/
def absorbed (db : Database) : Database := { db with saved := db.tables, log := .nothing }

/-- The database without what its log held. -/
def reverted (db : Database) : Database := { db with tables := db.saved, log := .nothing }

end Database

/-- What a user of a database holds: the number of the database, and whether it may be changed. -/
structure Connection where
  number : Nat
  writable : Bool
deriving DecidableEq, Repr

end Daybook
