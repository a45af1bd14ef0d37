import Daybook.Calendar.Stamp
import Daybook.Text.Blank

/-!
Reading times. Three forms are read: the strict one of the tables, the relaxed one of answers, and
the heading over a note. Each reader takes the text apart from the front; a scanner returns what it
read and the rest.
-/

namespace Daybook.Scan

def digits? (least most : Nat) (text : List Char) : Option (Nat × List Char) :=
  let ds := (text.take most).takeWhile Char.isDigit
  if ds.length < least then none else some (Digits.value ds, text.drop ds.length)

/-- Reads all digits at the front, of which there is at least one. A number of more than 18 digits
after its leading zeros is no year, and is refused. -/
def allDigits? (text : List Char) : Option (Nat × List Char) :=
  let ds := text.takeWhile Char.isDigit
  let significant := ds.dropWhile (· == '0')
  if ds.isEmpty || 18 < significant.length then none
  else some (Digits.value significant, text.dropWhile Char.isDigit)

def char? (c : Char) : List Char → Option (List Char)
  | [] => none
  | d :: rest => if c = d then some rest else none

def skipBlank (text : List Char) : List Char := text.dropWhile isBlank

/-- Reads a field of at most two digits, with white space before it. -/
def field? (text : List Char) : Option (Nat × List Char) := digits? 1 2 (skipBlank text)

/-- Reads a year, with white space before it: at most four digits, or a sign and any number of them. -/
def year? (text : List Char) : Option (Int × List Char) :=
  match skipBlank text with
  | '-' :: rest => (allDigits? rest).map fun (n, rest) => (-(n : Int), rest)
  | '+' :: rest => (allDigits? rest).map fun (n, rest) => ((n : Int), rest)
  | text => (digits? 1 4 text).map fun (n, rest) => ((n : Int), rest)

/-- Reads a fraction of a second after its point: one digit or more, of which nine count. -/
def fraction? (text : List Char) : Option (Nat × List Char) :=
  let counted := (text.takeWhile Char.isDigit).take 9
  if counted.isEmpty then none
  else some (Digits.value counted * Nat.pow 10 (9 - counted.length), text.dropWhile Char.isDigit)

def optionalFraction? : List Char → Option (Nat × List Char)
  | '.' :: rest => fraction? rest
  | text => some (0, text)

/-- Reads a sign: true for a minus, which may also be the character U+2212. -/
def sign? : List Char → Option (Bool × List Char)
  | '+' :: rest => some (false, rest)
  | '-' :: rest => some (true, rest)
  | '\u2212' :: rest => some (true, rest)
  | _ => none

/-- Reads an offset from universal time, in seconds. `colon` reads what stands between hours and
minutes. -/
def offset? (colon : List Char → Option (List Char)) : List Char → Option (Int × List Char)
  | 'Z' :: rest => some (0, rest)
  | 'z' :: rest => some (0, rest)
  | text => do
      let (negative, text) ← sign? text
      let (hours, text) ← digits? 2 2 text
      let text ← colon text
      let (minutes, text) ← digits? 2 2 text
      if hours < 24 ∧ minutes < 60 then
        let seconds : Int := hours * 3600 + minutes * 60
        some (if negative then -seconds else seconds, text)
      else none

/-- The mark between a date and a time of day. -/
def separator? : List Char → Option (List Char)
  | c :: rest => if c = 'T' ∨ c = 't' ∨ c = ' ' then some rest else none
  | [] => none

/-- Reads a stamp with all digits in their places and its offset. -/
def strict? (text : List Char) : Option (Stamp × Int × List Char) := do
  let (year, text) ← digits? 4 4 text
  let text ← char? '-' text
  let (month, text) ← digits? 2 2 text
  let text ← char? '-' text
  let (day, text) ← digits? 2 2 text
  let text ← separator? text
  let (hour, text) ← digits? 2 2 text
  let text ← char? ':' text
  let (minute, text) ← digits? 2 2 text
  let text ← char? ':' text
  let (second, text) ← digits? 2 2 text
  let (nano, text) ← optionalFraction? text
  let (offset, text) ← offset? (char? ':') text
  return (⟨⟨year, month, day⟩, hour, minute, second, nano⟩, offset, text)

/-- Reads a date with white space before its parts, where `gap` reads what may stand before a
hyphen. -/
def date? (gap : List Char → List Char) (text : List Char) : Option (Date × List Char) := do
  let (year, text) ← year? text
  let text ← char? '-' (gap text)
  let (month, text) ← field? text
  let text ← char? '-' (gap text)
  let (day, text) ← field? text
  return (⟨year, month, day⟩, text)

/-- Reads hour, minute and second with white space before them, where `gap` reads what may stand
before a colon. -/
def clock? (gap : List Char → List Char) (text : List Char) :
    Option ((Nat × Nat × Nat) × List Char) := do
  let (hour, text) ← field? text
  let text ← char? ':' (gap text)
  let (minute, text) ← field? text
  let text ← char? ':' (gap text)
  let (second, text) ← field? text
  return ((hour, minute, second), text)

/-- The rest of a text that begins with the letters of universal time, in either case. -/
def universal? : List Char → Option (List Char)
  | a :: b :: c :: rest =>
      if (a = 'U' ∨ a = 'u') ∧ (b = 'T' ∨ b = 't') ∧ (c = 'C' ∨ c = 'c') then some rest else none
  | _ => none

/-- Reads an offset that may be given by name, and whose hours and minutes may have any run of colons
and white space between them. -/
def relaxedOffset? (text : List Char) : Option (Int × List Char) :=
  match universal? text with
  | some rest => some (0, rest)
  | none => offset? (fun text => some (text.dropWhile fun c => c == ':' || isBlank c)) text

/-- Reads a stamp with white space around its parts and its offset. -/
def relaxed? (text : List Char) : Option (Stamp × Int × List Char) := do
  let (date, text) ← date? skipBlank text
  let text ← separator? text
  let ((hour, minute, second), text) ← clock? skipBlank text
  let (nano, text) ← optionalFraction? text
  let (offset, text) ← relaxedOffset? (skipBlank text)
  return (⟨date, hour, minute, second, nano⟩, offset, skipBlank text)

/-- Reads a stamp as it stands over a note. -/
def heading? (text : List Char) : Option (Stamp × List Char) := do
  let (date, text) ← date? id text
  let ((hour, minute, second), text) ← clock? id text
  return (⟨date, hour, minute, second, 0⟩, text)

end Scan

namespace Instant

def ofStoredText? (text : List Char) : Option Instant := do
  let (stamp, offset, rest) ← Scan.strict? text
  if rest.isEmpty then stamp.instant? offset else none

def ofWireText? (text : List Char) : Option Instant := do
  let (stamp, offset, rest) ← Scan.relaxed? text
  if rest.isEmpty then stamp.instant? offset else none

def ofHeadingText? (text : List Char) : Option Instant := do
  let (stamp, rest) ← Scan.heading? text
  if rest.isEmpty then stamp.instant? 0 else none

end Instant

end Daybook
