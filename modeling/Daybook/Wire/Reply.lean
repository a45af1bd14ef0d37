import Daybook.Calendar.Scan
import Daybook.Json.Parser
import Daybook.Json.View
import Daybook.Wire.Response

/-!
Replies: an answer as its receiver reads it. Whether the request succeeded must be there, the error
and its kind may be, and all other members are kept as JSON values. They are read as what the receiver
takes them for; a value that is something else is read as nothing.
-/

namespace Daybook

/-- An answer that was read. -/
structure Reply where
  success : Bool
  error : Option String
  kind : Option FailureKind
  fields : List (String × Json)

namespace Reply

open Json

/-- The fault of a value of another kind than the one wanted. A value on its own is read to its end; a
list or an object is left alone. -/
def wrongKind {α : Type} (wanted : String) (text : List Char) : Except Fault α :=
  let refuse (found : Found) (rest : List Char) : Except Fault α :=
    .error (Fault.before (.wrongKind found wanted) rest)
  let refuseNumber (read : Json × List Char) : Except Fault α :=
    match read with
    | (.int v, rest) => refuse (.int v) rest
    | (.float bits, rest) => refuse (.float bits) rest
    | (_, rest) => .error (Fault.next .valueExpected rest)
  match text with
  | [] => .error (Fault.next .endInValue [])
  | 'n' :: rest => word ['u', 'l', 'l'] rest >>= refuse .null
  | 't' :: rest => word ['r', 'u', 'e'] rest >>= refuse (.bool true)
  | 'f' :: rest => word ['a', 'l', 's', 'e'] rest >>= refuse (.bool false)
  | '-' :: rest => number true rest >>= refuseNumber
  | '"' :: rest => do
      let (s, rest) ← string rest
      refuse (.str s) rest
  | '[' :: rest => refuse .list ('[' :: rest)
  | '\x7b' :: rest => refuse .object ('\x7b' :: rest)
  | c :: rest =>
      if c.isDigit then number false (c :: rest) >>= refuseNumber
      else .error (Fault.next .valueExpected (c :: rest))

def truth (text : List Char) : Except Fault (Bool × List Char) :=
  match skipGap text with
  | 't' :: rest => (word ['r', 'u', 'e'] rest).map fun rest => (true, rest)
  | 'f' :: rest => (word ['a', 'l', 's', 'e'] rest).map fun rest => (false, rest)
  | text => wrongKind "a boolean" text

def textValue (wanted : String) (text : List Char) : Except Fault (String × List Char) :=
  match skipGap text with
  | '"' :: rest => string rest
  | text => wrongKind wanted text

def nothing (text : List Char) : Except Fault (List Char) :=
  match skipGap text with
  | 'n' :: rest => word ['u', 'l', 'l'] rest
  | text => wrongKind "unit" text

def optional {α : Type} (value : List Char → Except Fault (α × List Char)) (text : List Char) :
    Except Fault (Option α × List Char) :=
  match skipGap text with
  | 'n' :: rest => (word ['u', 'l', 'l'] rest).map fun rest => (none, rest)
  | text => (value text).map fun (a, rest) => (some a, rest)

/-- Reads the name of a kind of failure after its opening quote. -/
def kindName (text : List Char) : Except Fault (FailureKind × List Char) := do
  let (name, rest) ← string text
  match FailureKind.ofName? name with
  | some kind => return (kind, rest)
  | none =>
      .error (Fault.before (.unknownVariant name (FailureKind.all.map FailureKind.name)) rest)

/-- Reads a kind of failure: its name, or an object with null under its name. -/
def kindValue (text : List Char) : Except Fault (FailureKind × List Char) :=
  match skipGap text with
  | [] => .error (Fault.next .endInValue [])
  | '"' :: rest => kindName rest
  | '\x7b' :: rest =>
      match skipGap rest with
      | [] => .error (Fault.next .endInObject [])
      | '"' :: rest => do
          let (kind, rest) ← kindName rest
          let rest ← nothing (← colon rest)
          match skipGap rest with
          | '\x7d' :: rest => return (kind, rest)
          | [] => .error (Fault.before .endInObject [])
          | rest => .error (Fault.before .valueExpected rest)
      | '\x7d' :: rest => .error (Fault.next .valueExpected ('\x7d' :: rest))
      | rest => .error (Fault.next .keyExpected rest)
  | rest => .error (Fault.next .valueExpected rest)

/-- The members read so far. The fields are kept with the latest first. -/
structure Draft where
  success : Option Bool
  error : Option (Option String)
  kind : Option (Option FailureKind)
  fields : List (String × Json)

/-- The fault of a member that is there already. When the object ends after its name, the place is
after the brace. -/
def duplicate {α : Type} (name : String) (text : List Char) : Except Fault α :=
  match skipGap text with
  | '\x7d' :: rest => .error (Fault.before (.duplicateMember name) rest)
  | rest => .error (Fault.before (.duplicateMember name) rest)

/-- Reads the value of a member that may be there once. -/
def once {α : Type} (name : String) (present : Bool)
    (value : List Char → Except Fault (α × List Char)) (text : List Char) :
    Except Fault (α × List Char) := do
  if present then duplicate name text else value (← colon text)

def member (name : String) (draft : Draft) (text : List Char) :
    Except Fault (Draft × List Char) :=
  match name with
  | "success" =>
      (once name draft.success.isSome truth text).map fun (b, rest) =>
        ({ draft with success := some b }, rest)
  | "error" =>
      (once name draft.error.isSome (optional (textValue "a string")) text).map fun (e, rest) =>
        ({ draft with error := some e }, rest)
  | "kind" =>
      (once name draft.kind.isSome (optional kindValue) text).map fun (k, rest) =>
        ({ draft with kind := some k }, rest)
  | name =>
      (enter (value (maxDepth - 1)) name draft.fields text).map fun (fields, rest) =>
        ({ draft with fields }, rest)

/-- Reads the members of an answer after its opening brace. -/
def body (text : List Char) : Except Fault (Reply × List Char) := do
  let (draft, rest) ← members member text true ⟨none, none, none, []⟩ text
  match draft.success with
  | none => .error (Fault.before (.missingMember "success") rest)
  | some success =>
      return (⟨success, draft.error.join, draft.kind.join, Members.ofReversed draft.fields⟩, rest)

/-- Reads an answer from a line without its terminator. -/
def decode (text : List Char) : Except Fault Reply :=
  match skipGap text with
  | '\x7b' :: rest => body rest >>= finish
  | text => wrongKind "struct Reply" text

/-- A reply as a JSON value: an error and a kind only when they are there, then the other members in
the order of their names. -/
def toJson (reply : Reply) : Json :=
  .obj <| ("success", .bool reply.success) ::
    ((reply.error.map fun e => ("error", Json.str e)).toList ++
      (reply.kind.map fun k => ("kind", Json.str k.name)).toList ++ reply.fields)

/-- A reply as a line, without its terminator. -/
def line (reply : Reply) : List Char := reply.toJson.render

end Reply

namespace Json

def asInstant? : Json → Option Instant
  | .str s => Instant.ofWireText? s.toList
  | _ => none

def asTask? (j : Json) : Option TaskSummary := do
  match ← j.asRecord? ["id", "title", "priority"] with
  | [id, title, priority] =>
      return ⟨← id.asInteger?, ← title.asText?, ← priority.asNamed? Priority.ofName?⟩
  | _ => none

def asReminder? (j : Json) : Option ReminderSummary := do
  match ← j.asRecord? ["id", "title", "trigger_time", "status"] with
  | [id, title, triggerTime, status] =>
      return ⟨← id.asInteger?, ← title.asText?, ← triggerTime.asInstant?,
        ← status.asNamed? ReminderStatus.ofName?⟩
  | _ => none

def asMatch? (j : Json) : Option NoteMatch := do
  match ← j.asRecord? ["filename", "line", "context"] with
  | [filename, line, context] =>
      return ⟨← filename.asText?, ← line.asCount?, ← context.asText?⟩
  | _ => none

end Json

/-- A field of a reply as what `read?` takes it for. -/
def Reply.field? {α : Type} (reply : Reply) (read? : Json → Option α) (name : String) :
    Option α :=
  (reply.fields.lookup name).bind read?

end Daybook
