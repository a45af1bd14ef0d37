import Daybook.Daemon.Method
import Daybook.Store
import Daybook.Wire.Frame
import Daybook.Wire.Response

namespace Daybook

/-- A daemon: the store it serves, and the configuration with the values for what a request leaves
out. -/
structure Daemon where
  config : Config
  store : Store
deriving DecidableEq, Repr

/-- What a request yielded, or why it failed, and the disk after it. -/
abbrev Outcome := Except Failure Payload × Disk

namespace Outcome

/-- The outcome of an operation on the disk. -/
def ofStore {α : Type} (yield : α → Payload) : Except Error α × Disk → Outcome
  | (.ok a, disk) => (.ok (yield a), disk)
  | (.error e, disk) => (.error (.ofError e), disk)

/-- The outcome of looking something up, which leaves the disk as it is. -/
def ofQuery {α : Type} (yield : α → Payload) (result : Except Error α) (disk : Disk) : Outcome :=
  ofStore yield (result, disk)

/-- Goes on with the parameters of a request, unless one of them is wrong. -/
def withParams {α : Type} (params : Except ParamError α) (disk : Disk) (go : α → Outcome) :
    Outcome :=
  match params with
  | .ok a => go a
  | .error e => (.error (.ofParamError e), disk)

end Outcome

namespace Daemon

open Outcome

/-- The new task that the parameters of a request describe. -/
def newTask (params : Params) : Except ParamError NewTask := do
  let title ← params.text "title"
  let priority ← params.optionalParsed Priority.parse "priority"
  let description ← params.optionalText "description"
  return ⟨title, description, priority.getD .medium⟩

def searchTerms (config : Config) (params : Params) : Except ParamError (String × Nat) := do
  let query ← params.text "query"
  let limit ← params.optionalCount "limit"
  return (query, limit.getD config.searchLimit)

def reminderTerms (config : Config) (params : Params) : Except ParamError (String × Int) := do
  let title ← params.text "title"
  let minutes ← params.optionalInteger "minutes"
  return (title, minutes.getD config.defaultMinutes)

def taskMessage (title : String) (id : Int) : String :=
  "Task created: " ++ title ++ " (ID: " ++ Error.numberText id ++ ")"

def reminderMessage (title : String) (minutes : Int) : String :=
  "Reminder set for " ++ Error.numberText minutes ++ " minutes: " ++ title

def perform (daemon : Daemon) (now : Instant) (method : Method) (params : Params) (disk : Disk) :
    Outcome :=
  let store := daemon.store
  match method with
  | .takeNote =>
      withParams (params.text "content") disk fun content =>
        ofStore (fun _ => .message ("Note saved to " ++ store.notes.path))
          (store.appendNote content now disk)
  | .searchNotes =>
      withParams (searchTerms daemon.config params) disk fun (query, limit) =>
        ofQuery .searchResults (store.searchNotes query limit disk) disk
  | .createTask =>
      withParams (newTask params) disk fun task =>
        ofStore (fun id => .taskCreated (taskMessage task.title id) id)
          (store.createTask task now disk)
  | .listTasks =>
      ofQuery (fun tasks => .taskList (tasks.map Task.summary)) (store.listPendingTasks disk) disk
  | .completeTask =>
      withParams (params.integer "task_id") disk fun id =>
        ofStore (fun _ => .ack) (store.completeTask id now disk)
  | .createReminder =>
      withParams (reminderTerms daemon.config params) disk fun (title, minutes) =>
        ofStore (fun r => .reminderCreated (reminderMessage r.title minutes) r.id r.triggerTime)
          (store.createReminder title minutes now disk)
  | .listReminders =>
      ofQuery (fun reminders => .reminderList (reminders.map Reminder.summary))
        (store.listActiveReminders disk) disk
  | .cancelReminder =>
      withParams (params.integer "reminder_id") disk fun id =>
        ofStore (fun _ => .ack) (store.cancelReminder id disk)

def invoke (daemon : Daemon) (now : Instant) (method : String) (params : Params) (disk : Disk) :
    Outcome :=
  match Method.ofName? method with
  | none => (.error (.unknownMethod method), disk)
  | some m => daemon.perform now m params disk

def request (daemon : Daemon) : Frame → Except DecodeError Request
  | .tooLong length => .error (.tooLong length daemon.config.maxLineBytes)
  | .line bytes => Request.decode bytes

def answer (daemon : Daemon) (now : Instant) (frame : Frame) (disk : Disk) : Response × Disk :=
  match daemon.request frame with
  | .error e => (.failure (.ofDecodeError e), disk)
  | .ok request =>
      let (result, disk) := daemon.invoke now request.method request.params disk
      (.ofResult result, disk)

end Daemon

end Daybook
