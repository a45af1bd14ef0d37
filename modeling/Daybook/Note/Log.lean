import Daybook.Disk.Basic
import Daybook.Note.Entry
import Daybook.Text.Lower

namespace Daybook

/-- A line of the log that was searched for. Lines are counted from 1. -/
structure NoteMatch where
  filename : String
  line : Nat
  context : String
deriving DecidableEq, Repr

structure NoteLog where
  path : String
deriving DecidableEq, Repr

namespace NoteLog

def fileName (log : NoteLog) : String := Path.fileName log.path

def append (log : NoteLog) (content : String) (now : Instant) (disk : Disk) :
    Except Error Disk :=
  match disk.append log.path (Utf8.encode (NoteEntry.format content.toList now)) with
  | .ok disk => .ok disk
  | .error fault => .error (.file fault)

def read? (log : NoteLog) (disk : Disk) : Except Error (Option (List UInt8)) :=
  match disk.read log.path with
  | .ok bytes => .ok (some bytes)
  | .error .notFound => .ok none
  | .error fault => .error (.file fault)

/-- Looks for a lower-case text in lines, of which the first has the given number, until the limit is
reached. `found` holds the matches so far, the latest first. -/
def searchLines (filename : String) (needle : List Char) : (limit number : Nat) →
    (found : List NoteMatch) → List (List Char) → List NoteMatch
  | 0, _, found, _ => found.reverse
  | _ + 1, _, found, [] => found.reverse
  | limit + 1, number, found, line :: rest =>
      if Case.occursIn needle (Case.lower line) then
        let hit := ⟨filename, number, String.ofList (trim line)⟩
        searchLines filename needle limit (number + 1) (hit :: found) rest
      else searchLines filename needle (limit + 1) (number + 1) found rest

/-- The first lines that contain a text, at most `limit`. The log is not opened for none. -/
def search (log : NoteLog) (query : String) (limit : Nat) (disk : Disk) :
    Except Error (List NoteMatch) :=
  if limit = 0 then .ok []
  else
    match log.read? disk with
    | .error e => .error e
    | .ok none => .ok []
    | .ok (some bytes) =>
        .ok (searchLines log.fileName (Case.lower query.toList) limit 1 [] (NoteEntry.lines bytes))

def entries (log : NoteLog) (disk : Disk) : Except Error (List NoteEntry) := do
  match ← log.read? disk with
  | none => return []
  | some bytes => return NoteEntry.ofLog bytes

end NoteLog

end Daybook
