import Daybook.Calendar.Scan
import Daybook.Text.Lines
import Daybook.Text.Utf8

/-!
The form of a note in the log: an empty line, a heading with the time, the content, and a footer.
Entries are recovered from the lines of a log. An entry goes from a heading to the last footer before
the next heading, so that a line of its content may look like a footer; an entry without a footer was
not finished and is left out.
-/

namespace Daybook

/-- A note recovered from the log: the time as its heading gives it, and its content. -/
structure NoteEntry where
  timestamp : String
  content : String
deriving DecidableEq, Repr

namespace NoteEntry

/-- What a heading begins with. -/
def headingMark : List Char := ['#', '#', ' ']

def footer : List Char := ['-', '-', '-']

/-- A note as it is written at the end of the log. -/
def format (content : List Char) (t : Instant) : List Char :=
  '\n' :: headingMark ++ t.headingText ++ '\n' :: content ++ '\n' :: footer ++ ['\n']

def heading? (line : List Char) : Option (List Char) :=
  if headingMark.isPrefixOf line then
    let rest := line.drop headingMark.length
    if (Instant.ofHeadingText? rest).isSome then some rest else none
  else none

/-- The lines of a log as texts. Bytes that are no text give replacement characters. -/
def lines (log : List UInt8) : List (List Char) :=
  (linesOf log).map fun line => Utf8.decodeLossy line.content

/-- An entry whose heading has been read: its time, and the lines since, the latest first. -/
structure Unfinished where
  timestamp : List Char
  body : List (List Char)

/-- The entry up to its last footer. -/
def Unfinished.close? (entry : Unfinished) : Option NoteEntry :=
  match entry.body.dropWhile (· != footer) with
  | [] => none
  | _ :: before =>
      some ⟨String.ofList entry.timestamp, String.ofList (['\n'].intercalate before.reverse)⟩

/-- The state between two lines: the entries found, the latest first, and the one that is open. -/
structure Scanner where
  found : List NoteEntry
  current : Option Unfinished

/-- The entries found when the open one is closed, the latest first. -/
def Scanner.closed (s : Scanner) : List NoteEntry :=
  match s.current.bind Unfinished.close? with
  | some entry => entry :: s.found
  | none => s.found

/-- Reads the next line. Lines before the first heading belong to no entry. -/
def Scanner.push (s : Scanner) (line : List Char) : Scanner :=
  match heading? line with
  | some timestamp => ⟨s.closed, some ⟨timestamp, []⟩⟩
  | none =>
      match s.current with
      | some entry => ⟨s.found, some ⟨entry.timestamp, line :: entry.body⟩⟩
      | none => s

def ofLog (log : List UInt8) : List NoteEntry :=
  ((lines log).foldl Scanner.push ⟨[], none⟩).closed.reverse

end NoteEntry

end Daybook
