import Daybook.Database.Basic
import Daybook.Error

/-!
The disk: a tree of directories and files. It is kept as a list of places with what stands there. A
file may be a part of a database; the databases are kept beside the tree under numbers, since a
database that is in use lives on when its files are taken away.

An operation that changes the disk returns the disk after it also when it fails, because it may have
done a part of its work.
-/

namespace Daybook

/-- What can stand at a place. A part of a database has the bytes of its own as long as it is intact,
and after them what others have added; what others have put in their stead is all there is
otherwise. -/
inductive Entry where
  | directory
  | file (bytes : List UInt8)
  | part (number : Nat) (part : Part) (intact : Bool) (bytes : List UInt8)
deriving DecidableEq, Repr

/-- The places that are taken, the databases by their numbers, and how many numbers have been given
out. The root and the working directory are always there. -/
structure Disk where
  entries : List (Place × Entry)
  databases : List (Nat × Database)
  issued : Nat
deriving DecidableEq, Repr

namespace Disk

/-- The directory from which paths are followed that do not begin at the root. -/
def workingDirectory : Place := ["work"]

/-- The disk with an empty working directory. -/
def empty : Disk := ⟨[(workingDirectory, .directory)], [], 0⟩

def find? (disk : Disk) (place : Place) : Option Entry :=
  if place.isEmpty then some .directory else disk.entries.lookup place

/-- The disk with an entry at a place, whatever stood there before. -/
def put (disk : Disk) (place : Place) (entry : Entry) : Disk :=
  { disk with entries := (place, entry) :: disk.entries.filter (·.1 != place) }

def erase (disk : Disk) (place : Place) : Disk :=
  { disk with entries := disk.entries.filter (·.1 != place) }

@[simp] theorem find?_root (disk : Disk) : disk.find? [] = some .directory := rfl

theorem find?_eq_lookup (disk : Disk) {place : Place} (h : place ≠ []) :
    disk.find? place = disk.entries.lookup place := by
  cases place with
  | nil => exact absurd rfl h
  | cons name rest => rfl

theorem find?_put_self (disk : Disk) (place : Place) (entry : Entry) (h : place ≠ []) :
    (disk.put place entry).find? place = some entry := by
  rw [find?_eq_lookup _ h]
  exact List.lookup_cons_self

theorem lookup_filter_of_pos {κ α : Type} [BEq κ] [LawfulBEq κ] {p : κ → Bool} {key : κ}
    (h : p key = true) (pairs : List (κ × α)) :
    (pairs.filter (p ·.1)).lookup key = pairs.lookup key := by
  induction pairs with
  | nil => rfl
  | cons pair pairs ih =>
      obtain ⟨k, a⟩ := pair
      cases hk : p k with
      | true => rw [List.filter_cons_of_pos (by exact hk), List.lookup_cons, List.lookup_cons, ih]
      | false =>
          have hne : key ≠ k := by
            rintro rfl
            cases h.symm.trans hk
          rw [List.filter_cons_of_neg (by simp [hk]), List.lookup_cons,
            beq_eq_false_iff_ne.mpr hne, ih]

theorem lookup_filter_of_ne {κ α : Type} [BEq κ] [LawfulBEq κ] {key other : κ} (h : other ≠ key)
    (pairs : List (κ × α)) :
    (pairs.filter (·.1 != key)).lookup other = pairs.lookup other :=
  lookup_filter_of_pos (p := (· != key)) (bne_iff_ne.mpr h) pairs

theorem lookup_filter_self {κ α : Type} [BEq κ] [LawfulBEq κ] (key : κ) (pairs : List (κ × α)) :
    (pairs.filter (·.1 != key)).lookup key = none := by
  rw [List.lookup_eq_none_iff]
  intro pair hpair
  have hne : pair.1 ≠ key := by simpa using (List.mem_filter.mp hpair).2
  exact bne_iff_ne.mpr hne.symm

theorem find?_put_of_ne (disk : Disk) {place other : Place} (entry : Entry) (h : other ≠ place) :
    (disk.put place entry).find? other = disk.find? other := by
  cases other with
  | nil => rfl
  | cons name rest =>
      rw [find?_eq_lookup _ (List.cons_ne_nil _ _), find?_eq_lookup _ (List.cons_ne_nil _ _), put,
        List.lookup_cons, beq_eq_false_iff_ne.mpr h]
      exact lookup_filter_of_ne h disk.entries

theorem find?_erase_self (disk : Disk) {place : Place} (h : place ≠ []) :
    (disk.erase place).find? place = none := by
  rw [find?_eq_lookup _ h]
  exact lookup_filter_self place disk.entries

theorem find?_erase_of_ne (disk : Disk) {place other : Place} (h : other ≠ place) :
    (disk.erase place).find? other = disk.find? other := by
  cases other with
  | nil => rfl
  | cons name rest =>
      rw [find?_eq_lookup _ (List.cons_ne_nil _ _), find?_eq_lookup _ (List.cons_ne_nil _ _)]
      exact lookup_filter_of_ne h disk.entries

def database? (disk : Disk) (number : Nat) : Option Database := disk.databases.lookup number

def putDatabase (disk : Disk) (number : Nat) (db : Database) : Disk :=
  { disk with databases := (number, db) :: disk.databases.filter (·.1 != number) }

@[simp] theorem database?_put (disk : Disk) (place : Place) (entry : Entry) (number : Nat) :
    (disk.put place entry).database? number = disk.database? number := rfl

@[simp] theorem database?_erase (disk : Disk) (place : Place) (number : Nat) :
    (disk.erase place).database? number = disk.database? number := rfl

@[simp] theorem find?_putDatabase (disk : Disk) (number : Nat) (db : Database) (place : Place) :
    (disk.putDatabase number db).find? place = disk.find? place := rfl

@[simp] theorem database?_putDatabase_self (disk : Disk) (number : Nat) (db : Database) :
    (disk.putDatabase number db).database? number = some db :=
  List.lookup_cons_self

theorem database?_putDatabase_of_ne (disk : Disk) {number other : Nat} (db : Database)
    (h : other ≠ number) :
    (disk.putDatabase number db).database? other = disk.database? other := by
  rw [database?, putDatabase, List.lookup_cons, beq_eq_false_iff_ne.mpr h]
  exact lookup_filter_of_ne h disk.databases

/-- The disk with one database more, which is given a number. -/
def addDatabase (disk : Disk) (db : Database) : Nat × Disk :=
  (disk.issued, { disk.putDatabase disk.issued db with issued := disk.issued + 1 })

/-- The bytes that a part of a database has of its own. Of these only three things matter: how many
there are, that the first is not zero, and that they make one line. An index has its full size from
the first; a log has nothing as long as it holds nothing. -/
def ownBytes (disk : Disk) (number : Nat) : Part → List UInt8
  | .body => List.replicate 4096 1
  | .index => List.replicate 32768 1
  | .log =>
      match disk.database? number with
      | some db => if db.log = .nothing then [] else List.replicate 4096 1
      | none => []

/-- The bytes of what is not a directory. -/
def bytes? (disk : Disk) : Entry → Option (List UInt8)
  | .directory => none
  | .file bytes => some bytes
  | .part number part intact bytes =>
      some (if intact then disk.ownBytes number part ++ bytes else bytes)

/-- Where a path leads, and whether it asks for a directory by a slash at its end. The place itself
may be free, but the directory it is in is there. -/
structure Target where
  place : Place
  slash : Bool
deriving DecidableEq, Repr

def maxName : Nat := 255

def Target.isTooLong (target : Target) : Bool :=
  maxName < (target.place.getLast?.getD "").utf8ByteSize

/-- Follows the parts of a path from a directory. The length of the last name is not looked at. -/
def follow (disk : Disk) : (here : Place) → List String → Except FileFault Target
  | here, [] => .ok ⟨here, false⟩
  | here, part :: rest =>
      if Path.isIdle part then follow disk here rest
      else if part = ".." then follow disk here.dropLast rest
      else
        let there := here ++ [part]
        if rest.all (· == "") then .ok ⟨there, !rest.isEmpty⟩
        else if maxName < part.utf8ByteSize then .error .nameTooLong
        else
          match disk.find? there with
          | none => .error .notFound
          | some .directory => follow disk there rest
          | some _ => .error .notDirectory

/-- The directory at which a path begins. -/
def startOf (path : String) : Place := if Path.isAbsolute path then [] else workingDirectory

/-- Finds out where a path leads, whatever the length of the last name. -/
def approach (disk : Disk) (path : String) : Except FileFault Target :=
  if path.toList.contains '\x00' then .error .zeroInName
  else if path == "" then .error .notFound
  else if 4095 < path.utf8ByteSize then .error .nameTooLong
  else disk.follow (startOf path) (Path.parts path)

def resolve (disk : Disk) (path : String) : Except FileFault Target := do
  let target ← disk.approach path
  if target.isTooLong then .error .nameTooLong else return target

def lookup (disk : Disk) (path : String) : Except FileFault Entry := do
  let target ← disk.resolve path
  match disk.find? target.place with
  | none => .error .notFound
  | some .directory => return .directory
  | some entry => if target.slash then .error .notDirectory else return entry

def isThere (disk : Disk) (path : String) : Bool := (disk.lookup path).toBool

def isDirectory (disk : Disk) (path : String) : Bool :=
  match disk.lookup path with
  | .ok .directory => true
  | _ => false

def read (disk : Disk) (path : String) : Except FileFault (List UInt8) := do
  match disk.bytes? (← disk.lookup path) with
  | none => .error .isDirectory
  | some bytes => return bytes

/-- The place of a file that may be written to and is made when it is not there. That a slash asks for
a directory is found before the length of the name. -/
def openFile (disk : Disk) (path : String) : Except FileFault Place := do
  let target ← disk.approach path
  if target.slash then .error .isDirectory
  else if target.isTooLong then .error .nameTooLong
  else
    match disk.find? target.place with
    | some .directory => .error .isDirectory
    | _ => return target.place

def append (disk : Disk) (path : String) (bytes : List UInt8) : Except FileFault Disk := do
  let place ← disk.openFile path
  match disk.find? place with
  | some (.part number part intact before) =>
      return disk.put place (.part number part intact (before ++ bytes))
  | some (.file before) => return disk.put place (.file (before ++ bytes))
  | _ => return disk.put place (.file bytes)

/-- A file with other bytes. It stays a part of a database as long as the database is in use. -/
def replaced (disk : Disk) (bytes : List UInt8) : Option Entry → Entry
  | some (.part number part _ _) =>
      if ((disk.database? number).map Database.isOpen).getD false then
        .part number part false bytes
      else .file bytes
  | _ => .file bytes

def write (disk : Disk) (path : String) (bytes : List UInt8) : Except FileFault Disk := do
  let place ← disk.openFile path
  return disk.put place (disk.replaced bytes (disk.find? place))

def remove (disk : Disk) (path : String) : Except FileFault Disk := do
  let target ← disk.resolve path
  match disk.find? target.place with
  | none => .error .notFound
  | some .directory => .error .isDirectory
  | some _ => if target.slash then .error .notDirectory else return disk.erase target.place

def makeDirectory (disk : Disk) (path : String) : Except FileFault Disk := do
  let target ← disk.resolve path
  match disk.find? target.place with
  | some _ => .error .exists
  | none => return disk.put target.place .directory

def ensureDirectory (disk : Disk) (path : String) : Except FileFault Unit × Disk :=
  match disk.makeDirectory path with
  | .ok disk => (.ok (), disk)
  | .error fault => (if disk.isDirectory path then .ok () else .error fault, disk)

/-- Makes a directory and those it is in, where `steps` bounds the number of them. A directory is only
looked for further up when it is missing. -/
def makeDirectoriesUpTo (disk : Disk) : (steps : Nat) → (path : String) →
    Except FileFault Unit × Disk
  | 0, path => disk.ensureDirectory path
  | steps + 1, path =>
      if path == "" then (.ok (), disk)
      else
        match disk.makeDirectory path, Path.parent? path with
        | .error .notFound, some parent =>
            match disk.makeDirectoriesUpTo steps parent with
            | (.ok (), disk) => disk.ensureDirectory path
            | failed => failed
        | _, _ => disk.ensureDirectory path

/-- Makes a directory and all that it is in, as far as they are missing. -/
def makeDirectories (disk : Disk) (path : String) : Except FileFault Unit × Disk :=
  disk.makeDirectoriesUpTo ((Path.steps path).length + 1) path

/-- Makes the directory that a path leads into, unless something is there. -/
def ensureParent (disk : Disk) (path : String) : Except FileFault Unit × Disk :=
  match Path.parent? path with
  | none => (.ok (), disk)
  | some parent =>
      if parent == "" || disk.isThere parent then (.ok (), disk) else disk.makeDirectories parent

/-- The entries below a place, as paths from there: each directory before what it holds, and the names
of a directory in their order. -/
def listing (disk : Disk) (place : Place) : List (Place × Entry) :=
  let below := disk.entries.filterMap fun (there, entry) =>
    if place.isPrefixOf there && there.length != place.length then
      some (there.drop place.length, entry)
    else none
  below.mergeSort fun a b => !b.1.lex a.1

end Disk

end Daybook
