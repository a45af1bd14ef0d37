import Daybook.Decimal.Shortest
import Daybook.Text.Shown
import Daybook.Text.Utf8

/-!
What can be wrong with a JSON text, where, and how it is said. A place is given by the number of bytes
after it, which a reader that has only the rest of the text knows; line and column are worked out from
the whole text when the message is written.
-/

namespace Daybook.Json

/-- A value that stands where another kind is wanted. -/
inductive Found where
  | null
  | bool (b : Bool)
  | int (v : Int)
  | float (bits : UInt64)
  | str (s : String)
  | list
  | object
deriving DecidableEq, Repr

/-- What is wrong with a text. The last four are faults of a well-formed text that does not have the
members or the values that are wanted. -/
inductive Cause where
  | endInValue
  | endInString
  | endInList
  | endInObject
  | valueExpected
  | wordExpected
  | colonExpected
  | listCommaExpected
  | objectCommaExpected
  | keyExpected
  | trailingComma
  | trailingCharacters
  | invalidNumber
  | numberOutOfRange
  | invalidEscape
  | controlCharacter
  | loneSurrogate
  | halfSurrogate
  | nestedTooDeep
  | duplicateMember (name : String)
  | missingMember (name : String)
  | unknownVariant (name : String) (known : List String)
  | wrongKind (found : Found) (wanted : String)
deriving DecidableEq, Repr

/-- The three groups of faults: the text ends too early, it is not JSON, or it is not the value that
is wanted. -/
inductive Category where
  | unfinished
  | malformed
  | unfit
deriving DecidableEq, Repr

def Cause.category : Cause → Category
  | .endInValue | .endInString | .endInList | .endInObject => .unfinished
  | .duplicateMember _ | .missingMember _ | .unknownVariant _ _ | .wrongKind _ _ => .unfit
  | _ => .malformed

def Found.text : Found → String
  | .null => "null"
  | .bool true => "boolean `true`"
  | .bool false => "boolean `false`"
  | .int v => "integer `" ++ String.ofList (Digits.integer v) ++ "`"
  | .float bits => "floating point `" ++ String.ofList (Decimal.text bits) ++ "`"
  | .str s => "string " ++ String.ofList (Shown.showText s.toList)
  | .list => "sequence"
  | .object => "map"

/-- Names in backquotes with commas between them. -/
def listNames (names : List String) : String :=
  String.intercalate ", " (names.map fun name => "`" ++ name ++ "`")

def Cause.text : Cause → String
  | .endInValue => "EOF while parsing a value"
  | .endInString => "EOF while parsing a string"
  | .endInList => "EOF while parsing a list"
  | .endInObject => "EOF while parsing an object"
  | .valueExpected => "expected value"
  | .wordExpected => "expected ident"
  | .colonExpected => "expected `:`"
  | .listCommaExpected => "expected `,` or `]`"
  | .objectCommaExpected => "expected `,` or `\x7d`"
  | .keyExpected => "key must be a string"
  | .trailingComma => "trailing comma"
  | .trailingCharacters => "trailing characters"
  | .invalidNumber => "invalid number"
  | .numberOutOfRange => "number out of range"
  | .invalidEscape => "invalid escape"
  | .controlCharacter => "control character (\\u0000-\\u001F) found while parsing a string"
  | .loneSurrogate => "lone leading surrogate in hex escape"
  | .halfSurrogate => "unexpected end of hex escape"
  | .nestedTooDeep => "recursion limit exceeded"
  | .duplicateMember name => "duplicate field `" ++ name ++ "`"
  | .missingMember name => "missing field `" ++ name ++ "`"
  | .unknownVariant name known =>
      "unknown variant `" ++ name ++ "`, expected one of " ++ listNames known
  | .wrongKind found wanted => "invalid type: " ++ found.text ++ ", expected " ++ wanted

/-- A fault and the number of bytes after its place. -/
structure Fault where
  cause : Cause
  left : Nat
deriving DecidableEq, Repr

/-- A fault found when everything before `rest` has been read. -/
def Fault.before (cause : Cause) (rest : List Char) : Fault := ⟨cause, Utf8.size rest⟩

/-- A fault at the first byte of `rest`, or at its end when it has none. The place lies after that
byte. -/
def Fault.next (cause : Cause) (rest : List Char) : Fault := ⟨cause, Utf8.size rest - 1⟩

/-- A line and a column: a line is one more than the line feeds before it, and a column is the number
of bytes since the last of them. -/
structure Position where
  line : Nat
  column : Nat
deriving DecidableEq, Repr

/-- Moves a position over as much of a text as lies within `offset` bytes. -/
def Position.advance (p : Position) : (offset : Nat) → List Char → Position
  | _, [] => p
  | 0, _ :: _ => p
  | offset + 1, c :: rest =>
      if c = '\n' then Position.advance ⟨p.line + 1, 0⟩ offset rest
      else
        Position.advance ⟨p.line, p.column + min (offset + 1) c.utf8Size⟩
          (offset + 1 - c.utf8Size) rest

/-- What is wrong and at which line and column. -/
structure Complaint where
  cause : Cause
  position : Position
deriving DecidableEq, Repr

/-- The place of a fault in the text in which it was found. -/
def Fault.locate (f : Fault) (text : List Char) : Complaint :=
  ⟨f.cause, Position.advance ⟨1, 0⟩ (Utf8.size text - f.left) text⟩

def Complaint.message (c : Complaint) : String :=
  c.cause.text ++ " at line " ++ String.ofList (Digits.decimal c.position.line) ++ " column " ++
    String.ofList (Digits.decimal c.position.column)

end Daybook.Json
