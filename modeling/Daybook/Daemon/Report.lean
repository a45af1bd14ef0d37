import Daybook.Daemon.Handler
import Daybook.Daemon.Message
import Daybook.Text.Shown

namespace Daybook

namespace Daemon

def dispatchOrigin : String := "execd::dispatch"

def storeOrigin : String := "exec_core::store"

def notesOrigin : String := "exec_core::note"

/-- What is added to a message about a method. -/
def aboutMethod (method : String) : String :=
  " method=" ++ String.ofList (Shown.showText method.toList)

def reportBefore (daemon : Daemon) (frame : Frame) : List Message :=
  match daemon.request frame with
  | .ok request => [⟨.debug, dispatchOrigin, "dispatching method=" ++ request.method⟩]
  | .error _ => []

/-- What the store reports of a request that succeeded. -/
def reportSuccess (daemon : Daemon) (now : Instant) (request : Request) (payload : Payload) :
    List Message :=
  let created (id : Int) := "id=" ++ Error.numberText id
  match Method.ofName? request.method, payload with
  | some .takeNote, _ =>
      let content := ((request.params.text "content").toOption.getD "").toList
      let size := (Utf8.encode (NoteEntry.format content now)).length
      [⟨.debug, notesOrigin, "note appended path=" ++ daemon.store.notes.path ++ " bytes=" ++
        Error.numberText size⟩]
  | some .createTask, .taskCreated _ id =>
      let priority := ((newTask request.params).toOption.map (·.priority.name)).getD ""
      [⟨.debug, storeOrigin, "task created " ++ created id ++ " priority=" ++ priority⟩]
  | some .completeTask, _ =>
      let id := (request.params.integer "task_id").toOption.getD 0
      [⟨.debug, storeOrigin, "task completed " ++ created id⟩]
  | some .createReminder, .reminderCreated _ id trigger =>
      [⟨.debug, storeOrigin, "reminder created " ++ created id ++ " trigger=" ++
        String.ofList trigger.headingText ++ " UTC"⟩]
  | _, _ => []

def reportAfter (daemon : Daemon) (now : Instant) (frame : Frame) (response : Response) :
    List Message :=
  match daemon.request frame, response with
  | .error (.tooLong length limit), _ =>
      [⟨.warn, dispatchOrigin, "rejected request: " ++ (DecodeError.tooLong length limit).message⟩]
  | .error e, _ => [⟨.warn, dispatchOrigin, "failed to decode request: " ++ e.message⟩]
  | .ok request, .success payload => daemon.reportSuccess now request payload
  | .ok request, .failure failure =>
      let start := if (Method.ofName? request.method).isSome then "request failed: " else ""
      [⟨.warn, dispatchOrigin, start ++ failure.text ++ aboutMethod request.method⟩]

end Daemon

/-- A file that messages are added to, and which of them. -/
structure MessageLog where
  path : String
  filter : Filter
deriving DecidableEq, Repr

namespace MessageLog

/-- Adds messages to the log. That it cannot be written to does not matter. -/
def add (log : MessageLog) (now : Instant) (messages : List Message) (disk : Disk) : Disk :=
  match messages.filter log.filter.admits with
  | [] => disk
  | admitted =>
      let text := admitted.flatMap fun m => m.line now
      (disk.append log.path (Utf8.encode text)).toOption.getD disk

/-- The answer of a daemon to a frame, with a report of it in the log. -/
def answer (log : MessageLog) (daemon : Daemon) (now : Instant) (frame : Frame) (disk : Disk) :
    Response × Disk :=
  let disk := log.add now (daemon.reportBefore frame) disk
  let (response, disk) := daemon.answer now frame disk
  (response, log.add now (daemon.reportAfter now frame response) disk)

end MessageLog

/-- The answer of a daemon to a frame, with a report of it where there is a log for it. -/
def Daemon.respond (daemon : Daemon) (log : Option MessageLog) (now : Instant) (frame : Frame)
    (disk : Disk) : Response × Disk :=
  match log with
  | none => daemon.answer now frame disk
  | some log => log.answer daemon now frame disk

end Daybook
