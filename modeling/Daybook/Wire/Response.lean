import Daybook.Calendar.Stamp
import Daybook.Json.Render
import Daybook.Note.Log
import Daybook.Wire.Request

namespace Daybook

inductive FailureKind where
  | decodeError
  | unknownMethod
  | validationError
  | notFound
  | ioFailure
deriving DecidableEq, Repr

namespace FailureKind

def all : List FailureKind := [decodeError, unknownMethod, validationError, notFound, ioFailure]

def name : FailureKind → String
  | decodeError => "decode_error"
  | unknownMethod => "unknown_method"
  | validationError => "validation_error"
  | notFound => "not_found"
  | ioFailure => "io_failure"

def ofName? (text : String) : Option FailureKind := all.find? fun k => k.name == text

theorem ofName?_name (k : FailureKind) : ofName? k.name = some k := by cases k <;> decide

end FailureKind

def Error.kind (e : Error) : FailureKind :=
  if e.isStorage then .ioFailure else if e.isNotFound then .notFound else .validationError

structure Failure where
  kind : FailureKind
  message : String
deriving DecidableEq, Repr

namespace Failure

def ofError (e : Error) : Failure := ⟨e.kind, e.message⟩

def ofParamError (e : ParamError) : Failure := ⟨.validationError, e.message⟩

def ofDecodeError (e : DecodeError) : Failure := ⟨.decodeError, e.message⟩

def unknownMethod (method : String) : Failure := ⟨.unknownMethod, "Unknown method: " ++ method⟩

def text (f : Failure) : String := f.kind.name ++ ": " ++ f.message

end Failure

structure TaskSummary where
  id : Int
  title : String
  priority : Priority
deriving DecidableEq, Repr

def Task.summary (task : Task) : TaskSummary := ⟨task.id, task.title, task.priority⟩

structure ReminderSummary where
  id : Int
  title : String
  triggerTime : Instant
  status : ReminderStatus
deriving DecidableEq, Repr

def Reminder.summary (r : Reminder) : ReminderSummary := ⟨r.id, r.title, r.triggerTime, r.status⟩

inductive Payload where
  | ack
  | message (text : String)
  | searchResults (results : List NoteMatch)
  | taskCreated (text : String) (id : Int)
  | taskList (tasks : List TaskSummary)
  | reminderCreated (text : String) (id : Int) (triggerTime : Instant)
  | reminderList (reminders : List ReminderSummary)
deriving DecidableEq, Repr

def Instant.toJson (t : Instant) : Json := .str (String.ofList t.wireText)

def NoteMatch.toJson (m : NoteMatch) : Json :=
  .obj [("context", .str m.context), ("filename", .str m.filename), ("line", .int m.line)]

def TaskSummary.toJson (t : TaskSummary) : Json :=
  .obj [("id", .int t.id), ("priority", .str t.priority.name), ("title", .str t.title)]

def ReminderSummary.toJson (r : ReminderSummary) : Json :=
  .obj [("id", .int r.id), ("status", .str r.status.name), ("title", .str r.title),
    ("trigger_time", r.triggerTime.toJson)]

/-- The members of what a request yielded, in the order of their names. -/
def Payload.members : Payload → List (String × Json)
  | .ack => []
  | .message text => [("message", .str text)]
  | .searchResults results => [("results", .arr (results.map NoteMatch.toJson))]
  | .taskCreated text id => [("id", .int id), ("message", .str text)]
  | .taskList tasks => [("tasks", .arr (tasks.map TaskSummary.toJson))]
  | .reminderCreated text id triggerTime =>
      [("id", .int id), ("message", .str text), ("trigger_time", triggerTime.toJson)]
  | .reminderList reminders => [("reminders", .arr (reminders.map ReminderSummary.toJson))]

inductive Response where
  | success (payload : Payload)
  | failure (failure : Failure)
deriving DecidableEq, Repr

namespace Response

/-- The answer to a request that yielded something or failed. -/
def ofResult : Except Failure Payload → Response
  | .ok payload => .success payload
  | .error f => .failure f

def isSuccess : Response → Bool
  | success _ => true
  | failure _ => false

/-- An answer as a JSON value. Whether the request succeeded stands first. -/
def toJson : Response → Json
  | success payload => .obj (("success", .bool true) :: payload.members)
  | failure f =>
      .obj [("success", .bool false), ("error", .str f.message), ("kind", .str f.kind.name)]

def line (r : Response) : List Char := r.toJson.render

/-- The bytes of an answer with the line feed that ends it. -/
def bytes (r : Response) : List UInt8 := Utf8.encode (r.line ++ ['\n'])

end Response

end Daybook
