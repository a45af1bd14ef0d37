import Daybook.Database.Address
import Daybook.Disk.Basic

/-!
Opening databases and leaving them. A database is entered by a path; its body is made when it is
missing, and a body of at most one byte counts as new. The log and the index stand beside the body as
long as the database is in use. When the last user leaves, the log is put into the body and the two
are taken away, unless the body no longer stands where it was: then all stays as it is, and a log that
holds everything brings the database back when its place is entered again.
-/

namespace Daybook.Disk

/-- The place of the log of a database whose body is at a place. -/
def logPlace (place : Place) : Place := place.beside "-wal"

def indexPlace (place : Place) : Place := place.beside "-shm"

/-- The place of the journal, a file that is left over when a program stops in the middle of a change
that does not go through a log. -/
def journalPlace (place : Place) : Place := place.beside "-journal"

/-- The greatest length of the path of a body from the root, in bytes. -/
def maxBodyPath : Nat := 504

/-- The length of the path of a place from the root, in bytes. -/
def pathLength (place : Place) : Nat :=
  place.foldr (fun name length => name.utf8ByteSize + 1 + length) 0

/-- Follows the parts of a path from a place by their words alone: `..` takes back the part before it
whether that is a directory or not. -/
def followWords (disk : Disk) : (here : Place) → List String → Option Place
  | here, [] => some here
  | here, part :: rest =>
      if Path.isIdle part then followWords disk here rest
      else if part = ".." then followWords disk here.dropLast rest
      else
        match disk.find? here with
        | some .directory =>
            if maxName < part.utf8ByteSize then none else followWords disk (here ++ [part]) rest
        | some _ => none
        | none => followWords disk (here ++ [part]) rest

/-- The place of the body of a database, if it can be one: it lies in a directory and its path is not
too long. -/
def bodyPlace? (disk : Disk) (path : String) : Option Place :=
  match disk.followWords (startOf path) (Path.parts path) with
  | none => none
  | some place =>
      if maxBodyPath < pathLength place || place.isEmpty then none
      else if disk.find? place.dropLast = some .directory then some place
      else none

/-- Finds the body of a database in a file, or makes an empty one when it is missing and may be made.
The fault names the whole address. -/
def reach (disk : Disk) (whole path : String) (access : Access) :
    Except DatabaseFault Place × Disk :=
  match disk.bodyPlace? path with
  | none => (.error (.cannotOpen (some whole)), disk)
  | some place =>
      match disk.find? place with
      | some .directory =>
          (.error (if access = .read then .diskFault else .cannotOpen (some whole)), disk)
      | some _ => (.ok place, disk)
      | none =>
          if access = .create then (.ok place, disk.put place (.file []))
          else (.error (.cannotOpen (some whole)), disk)

/-- What stands at a place is a part of a database in use. -/
def isInUse (disk : Disk) (place : Place) : Bool :=
  match disk.find? place with
  | some (.part number _ _ _) => ((disk.database? number).map Database.isOpen).getD false
  | _ => false

/-- What stands at a place has at most one byte and counts as a new body. -/
def isNewBody (disk : Disk) (place : Place) : Bool :=
  match (disk.find? place).bind disk.bytes? with
  | some bytes => bytes.length ≤ 1
  | none => false

def hasDirectory (disk : Disk) (place : Place) : Bool := disk.find? place = some .directory

def eraseFile (disk : Disk) (place : Place) : Disk :=
  if disk.hasDirectory place then disk else disk.erase place

/-- Puts a part of a database at a place, unless a directory is there. -/
def putPart (disk : Disk) (number : Nat) (part : Part) (place : Place) : Disk :=
  if disk.hasDirectory place then disk else disk.put place (.part number part true [])

/-- Puts what a database that is changed in a certain manner has beside its body. -/
def putSides (disk : Disk) (number : Nat) (manner : Manner) (place : Place) : Disk :=
  match manner with
  | .logged =>
      (disk.putPart number .log (logPlace place)).putPart number .index (indexPlace place)
  | .loggedAlone => disk.putPart number .log (logPlace place)
  | .direct | .frozen => disk

/-- The part of a database at a place is that of the given kind, intact or not. -/
def holdsPart (disk : Disk) (number : Nat) (part : Part) (place : Place) : Bool :=
  match disk.find? place with
  | some (.part n p _ _) => n = number ∧ p = part
  | _ => false

/-- The part of a database at a place has been overwritten. -/
def isOverwritten (disk : Disk) (number : Nat) (part : Part) (place : Place) : Bool :=
  match disk.find? place with
  | some (.part n p false _) => n = number ∧ p = part
  | _ => false

/-- A connection as an address admits it. -/
def connection (number : Nat) (address : Address) : Connection := ⟨number, address.access != .read⟩

/-- Makes a database in a new body. -/
def found (disk : Disk) (place : Place) (address : Address) :
    Except DatabaseFault Connection × Disk :=
  let logged := address.manner == .logged || address.manner == .loggedAlone
  let start := fun (disk : Disk) (users : Nat) =>
    let (number, disk) := disk.addDatabase { Database.atRest .empty place logged with users }
    (number, disk.put place (.part number .body true []))
  if address.manner == .frozen || address.access == .read then (.error .readOnly, disk)
  else if maxName < ((journalPlace place).getLast?.getD "").utf8ByteSize then
    (.error (.cannotOpen none), disk)
  else if disk.hasDirectory (logPlace place) then (.error .diskFault, disk)
  else if disk.hasDirectory (journalPlace place) then (.error (.cannotOpen none), disk)
  else
    let disk := (disk.erase (journalPlace place)).erase (logPlace place)
    if address.manner == .logged && disk.hasDirectory (indexPlace place) then
      (.error .readOnly, (start disk 0).2.put (logPlace place) (.file []))
    else
      let (number, disk) := start disk 1
      (.ok (connection number address), disk.putSides number address.manner place)

/-- Takes away a journal that is left over. It is left over when its first byte is not zero. While the
database is in use the journal cannot be dealt with. -/
def clearJournal (disk : Disk) (place : Place) : Except DatabaseFault Unit × Disk :=
  match disk.find? (journalPlace place) with
  | some .directory => (.error .diskFault, disk)
  | some entry =>
      if ((disk.bytes? entry).getD []).head?.getD 0 = 0 then (.ok (), disk)
      else if disk.isInUse place then (.error .locked, disk)
      else (.ok (), disk.erase (journalPlace place))
  | none => (.ok (), disk)

/-- The database whose body stands at a place. -/
def bodyAt? (disk : Disk) (place : Place) : Option Nat :=
  match disk.find? place with
  | some (.part number .body _ _) => some number
  | _ => none

/-- Enters a database that no one uses, by its body. Its log takes the place of what stands there. -/
def awaken (disk : Disk) (number : Nat) (db : Database) (place : Place) (address : Address) :
    Except DatabaseFault Connection × Disk :=
  if address.manner == .direct then
    if db.logged then (.error (.cannotOpen none), disk)
    else (.ok (connection number address), disk.putDatabase number db.enter)
  else if disk.hasDirectory (logPlace place) then (.error (.cannotOpen none), disk)
  else
    let c := connection number address
    let blocked := address.manner == .logged && disk.hasDirectory (indexPlace place)
    let disk := disk.putDatabase number
      { db.enter with logged := true, under := disk.bodyAt? (logPlace place) }
    (.ok { c with writable := c.writable && !blocked }, disk.putSides number address.manner place)

/-- The log of a database is where it belongs, as it was written. -/
def hasOwnLog (disk : Disk) (number : Nat) (place : Place) : Bool :=
  disk.holdsPart number .log (logPlace place) &&
    !disk.isOverwritten number .log (logPlace place)

/-- Enters a database that others use. An overwritten body does no harm if the log holds everything,
unless it seems to be new, for then the log is taken away. A log that holds something has to be read. -/
def share (disk : Disk) (number : Nat) (db : Database) (place : Place) (intact : Bool)
    (bytes : List UInt8) (address : Address) : Except DatabaseFault Connection × Disk :=
  if !intact && bytes.length ≤ 1 then (.error .locked, disk.eraseFile (logPlace place))
  else if !intact && db.log != .everything then (.error .notDatabase, disk)
  else if address.manner == .direct && db.logged then (.error (.cannotOpen none), disk)
  else if db.log != .nothing && !disk.hasOwnLog number place then
    (.error .diskFault,
      if (disk.find? (logPlace place)).isNone then disk.put (logPlace place) (.file []) else disk)
  else if db.log == .remainder then (.error .notDatabase, disk)
  else (.ok (connection number address), disk.putDatabase number db.enter)

/-- A view of a database in a file that never changes: what the body holds, for this user alone. -/
def copy (disk : Disk) (db : Database) : Except DatabaseFault Connection × Disk :=
  let (number, disk) := disk.addDatabase (.inMemory db.saved none)
  (.ok ⟨number, false⟩, disk)

/-- Brings back the database whose log has stayed beside a body that is no longer its own. -/
def revive (disk : Disk) (place : Place) (bytes : List UInt8) (address : Address) :
    Except DatabaseFault Connection × Disk :=
  match disk.find? (logPlace place) with
  | some (.part number .log true _) =>
      match disk.database? number with
      | some db =>
          if !db.isOpen && db.log == .everything && address.manner != .frozen &&
              address.manner != .direct then
            let disk := disk.put place (.part number .body false bytes)
            let disk := disk.putDatabase number { db.enter with home := some place }
            (.ok (connection number address), disk.putSides number address.manner place)
          else (.error .notDatabase, disk)
      | none => (.error .notDatabase, disk)
  | some .directory => (.error (.cannotOpen none), disk)
  | _ => (.error .notDatabase, disk)

/-- Enters the database whose body stands at a place and is not new. -/
def enter (disk : Disk) (place : Place) (address : Address) :
    Except DatabaseFault Connection × Disk :=
  match if address.manner == .frozen then (.ok (), disk) else disk.clearJournal place with
  | (.error fault, disk) => (.error fault, disk)
  | (.ok (), disk) =>
      match disk.find? place with
      | some (.part number .body intact bytes) =>
          match disk.database? number with
          | none => (.error .notDatabase, disk)
          | some db =>
              if address.manner == .frozen then
                if intact then disk.copy db else (.error .notDatabase, disk)
              else if db.isOpen then disk.share number db place intact bytes address
              else disk.awaken number db place address
      | some entry => disk.revive place ((disk.bytes? entry).getD []) address
      | none => (.error .notDatabase, disk)

/-- The number of the database in memory that is shared under a name. -/
def sharedUnder? (disk : Disk) (name : String) : Option (Nat × Database) :=
  disk.databases.find? fun (_, db) => db.isOpen && db.name == some name

def enterMemory (disk : Disk) (name : Option String) (address : Address) : Connection × Disk :=
  match name.bind disk.sharedUnder? with
  | some (number, db) => (connection number address, disk.putDatabase number db.enter)
  | none =>
      let (number, disk) := disk.addDatabase (.inMemory .empty name)
      (connection number address, disk)

def connect (disk : Disk) (path : String) : Except DatabaseFault Connection × Disk :=
  match Address.ofPath path with
  | .error fault => (.error fault, disk)
  | .ok address =>
      match address.site with
      | .memory name =>
          let (c, disk) := disk.enterMemory name address
          (.ok c, disk)
      | .file filePath =>
          match disk.reach path filePath address.access with
          | (.error fault, disk) => (.error fault, disk)
          | (.ok place, disk) =>
              if disk.isNewBody place && !disk.isInUse place then disk.found place address
              else disk.enter place address

/-- Opens the database at a path as a passing program does, which does not make a database of a new
body and finds no tables in it. -/
def visit (disk : Disk) (path : String) : Except DatabaseFault (Option Connection) × Disk :=
  match Address.ofPath path with
  | .error fault => (.error fault, disk)
  | .ok address =>
      match address.site with
      | .memory name =>
          match name.bind disk.sharedUnder? with
          | some (number, db) =>
              (.ok (some (connection number address)), disk.putDatabase number db.enter)
          | none => (.ok none, disk)
      | .file filePath =>
          match disk.reach path filePath address.access with
          | (.error fault, disk) => (.error fault, disk)
          | (.ok place, disk) =>
              if disk.isNewBody place then (.ok none, disk.eraseFile (logPlace place))
              else
                match disk.enter place address with
                | (.ok c, disk) => (.ok (some c), disk)
                | (.error fault, disk) => (.error fault, disk)

/-- The disk without the log and the index of a database. -/
def clearSides (disk : Disk) (place : Place) : Disk :=
  (disk.eraseFile (logPlace place)).eraseFile (indexPlace place)

/-- Leaves a database as its last user, with its body at a place. Its log is put into the body. When
the log has been overwritten the body stays as it is, and the two files stay beside it. The body is no
database any more when it has been overwritten, unless the log holds everything, or when the log has
lost its beginning. -/
def settle (disk : Disk) (number : Nat) (db : Database) (place : Place) (intact : Bool)
    (bytes : List UInt8) : Disk :=
  let lost := disk.put place (.file (bytes ++ List.replicate 4096 1))
  match db.log, disk.find? (logPlace place) with
  | .nothing, _ =>
      let disk := if intact then disk else disk.put place (.file bytes)
      if db.logged then disk.clearSides place else disk
  | .remainder, _ => lost.clearSides place
  | reach, beside =>
      let overwritten? := match beside with
        | some (.part n .log false junk) => if n = number then some junk else none
        | _ => none
      match overwritten? with
      | some junk =>
          let disk := if intact then disk else disk.put place (.file bytes)
          (disk.put (logPlace place) (.file junk)).putDatabase number db.reverted
      | none =>
          if intact || reach == .everything then
            ((disk.put place (.part number .body true [])).putDatabase number
              db.absorbed).clearSides place
          else lost.clearSides place

/-- Leaves a database. When its body no longer stands where it was, or the last user may not change it,
the log stays where it is. -/
def disconnect (disk : Disk) (c : Connection) : Disk :=
  match disk.database? c.number with
  | none => disk
  | some db =>
      let db := db.leave
      let disk := disk.putDatabase c.number db
      if db.isOpen || !c.writable then disk
      else
        match db.home.map fun place => (place, disk.find? place) with
        | some (place, some (.part n .body intact bytes)) =>
            if n = c.number then disk.settle n db place intact bytes else disk
        | _ => disk

end Daybook.Disk
