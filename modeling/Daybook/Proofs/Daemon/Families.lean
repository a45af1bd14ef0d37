import Daybook.CommandLine
import Daybook.Proofs.Play
import Daybook.Proofs.Store.Families

namespace Daybook

def Method.family : Method → Family
  | .takeNote | .searchNotes => .notes
  | .createTask | .listTasks | .completeTask => .tasks
  | .createReminder | .listReminders | .cancelReminder => .reminders

/-- What is done with the log of notes. -/
inductive NoteDeed where
  | append (content : String) (now : Instant)
  | search (text : String) (limit : Nat)
  | read

inductive NoteAnswer where
  | appended
  | found (hits : List NoteMatch)
  | read (entries : List NoteEntry)
deriving DecidableEq

def Store.performNote (store : Store) (disk : Disk) : NoteDeed → Except Error NoteAnswer × Disk
  | .append content now =>
      match store.appendNote content now disk with
      | (result, disk) => (result.map fun () => .appended, disk)
  | .search text limit => ((store.searchNotes text limit disk).map .found, disk)
  | .read => ((store.readNotes disk).map .read, disk)

/-- What another program does to a file. -/
inductive FileDeed where
  | write (bytes : List UInt8)
  | append (bytes : List UInt8)
  | remove
  | makeDirectory

def FileDeed.apply (path : String) : FileDeed → Disk → Except FileFault Disk
  | .write bytes, disk => disk.write path bytes
  | .append bytes, disk => disk.append path bytes
  | .remove, disk => disk.remove path
  | .makeDirectory, disk => disk.makeDirectory path

/-- What happens around a daemon. A call on its store is made at the time of the clock. Other programs
change rows, whichever they find, and the file of the notes. -/
inductive Incident where
  | request (frame : Frame)
  | note (deed : Instant → NoteDeed)
  | task (deed : Instant → TaskDeed)
  | reminder (deed : Instant → ReminderDeed)
  | editNotes (deed : FileDeed)
  | editTasks (f : TaskTable → Except DatabaseFault (Nat × TaskTable))
  | editReminders (f : ReminderTable → Except DatabaseFault (Nat × ReminderTable))
  | clock (seconds : Int)

inductive Upshot where
  | response (response : Response)
  | note (answer : Except Error NoteAnswer)
  | task (answer : Except Error TaskAnswer)
  | reminder (answer : Except Error ReminderAnswer)
  | file (result : Except FileFault Unit)
  | rows (result : Except DatabaseFault Nat)
  | clock (result : Except Instant.StepFault Instant)
deriving DecidableEq

def Upshot.of {α : Type} (kind : α → Upshot) (result : α × Disk) : Upshot × Disk :=
  (kind result.1, result.2)

/-- The time after something has happened. A clock that cannot be moved stays. -/
def Incident.time (now : Instant) : Incident → Instant
  | .clock seconds => (now.step seconds).toOption.getD now
  | _ => now

/-- A disk and the time. -/
structure Scene where
  disk : Disk
  now : Instant

namespace Daemon

/-- What happens when a daemon that may report to a log meets with an incident. -/
def act (daemon : Daemon) (log : Option MessageLog) (now : Instant) :
    Incident → Disk → Upshot × Disk
  | .request frame, disk => Upshot.of .response (daemon.respond log now frame disk)
  | .note deed, disk => Upshot.of .note (daemon.store.performNote disk (deed now))
  | .task deed, disk => Upshot.of .task (daemon.store.performTask disk (deed now))
  | .reminder deed, disk => Upshot.of .reminder (daemon.store.performReminder disk (deed now))
  | .editNotes deed, disk =>
      Upshot.of .file (disk.attempt (deed.apply daemon.store.notes.path))
  | .editTasks f, disk => Upshot.of .rows (disk.editTasks daemon.config.tasksPath f)
  | .editReminders f, disk => Upshot.of .rows (disk.editReminders daemon.config.remindersPath f)
  | .clock seconds, disk => (.clock (now.step seconds), disk)

def step (daemon : Daemon) (log : Option MessageLog) (scene : Scene) (incident : Incident) :
    Upshot × Scene :=
  match daemon.act log scene.now incident scene.disk with
  | (upshot, disk) => (upshot, ⟨disk, incident.time scene.now⟩)

/-- The family of a request that names a method. -/
def requestFamily? (daemon : Daemon) (frame : Frame) : Option Family :=
  match daemon.request frame with
  | .ok request => (Method.ofName? request.method).map Method.family
  | .error _ => none

/-- The family that an incident is about. Moving the clock is about none. -/
def family? (daemon : Daemon) : Incident → Option Family
  | .request frame => daemon.requestFamily? frame
  | .note _ | .editNotes _ => some .notes
  | .task _ | .editTasks _ => some .tasks
  | .reminder _ | .editReminders _ => some .reminders
  | .clock _ => none

/-- An incident is about a family or about none. -/
def concerns (daemon : Daemon) (family : Family) (incident : Incident) : Bool :=
  (daemon.family? incident).all (· == family)

/-- The files that reports go to. -/
def reports (log : Option MessageLog) : List Place := log.toList.map fun log => Path.place log.path

theorem mem_reports {log : Option MessageLog} :
    ∀ messages ∈ log, Path.place messages.path ∈ reports log := fun _ hmessages =>
  List.mem_map_of_mem (Option.mem_toList.mpr hmessages)

variable {daemon : Daemon} {log : Option MessageLog} {places : List Place} {base : Disk}
  {family : Family} {now : Instant}

open Store

theorem actsOn_ofStore {α : Type} {op : Disk → Except Error α × Disk}
    (h : ActsOn daemon.config daemon.store places base family op) (yield : α → Payload) :
    ActsOn daemon.config daemon.store places base family fun disk => Outcome.ofStore yield (op disk) := by
  refine (h.map fun result => (result.map yield).mapError Failure.ofError).of_eq ?_
  intro disk
  obtain ⟨_ | _, _⟩ := op disk <;> rfl

theorem actsOn_withParams {α : Type} (params : Except ParamError α) {go : α → Disk → Outcome}
    (h : ∀ a, ActsOn daemon.config daemon.store places base family (go a)) :
    ActsOn daemon.config daemon.store places base family fun disk =>
      Outcome.withParams params disk fun a => go a disk := by
  cases params with
  | ok a => exact h a
  | error e => exact .const _

theorem actsOn_perform (method : Method) (params : Params) :
    ActsOn daemon.config daemon.store places base method.family fun disk =>
      daemon.perform now method params disk := by
  cases method with
  | takeNote => exact actsOn_withParams _ fun content => actsOn_ofStore (.appendNote content now) _
  | searchNotes =>
      refine actsOn_withParams (searchTerms daemon.config params) ?_
      rintro ⟨text, limit⟩
      exact actsOn_ofStore (.searchNotes text limit) _
  | createTask => exact actsOn_withParams _ fun task => actsOn_ofStore (.createTask task now) _
  | listTasks => exact actsOn_ofStore .listPendingTasks _
  | completeTask => exact actsOn_withParams _ fun id => actsOn_ofStore (.completeTask id now) _
  | createReminder =>
      refine actsOn_withParams (reminderTerms daemon.config params) ?_
      rintro ⟨title, minutes⟩
      exact actsOn_ofStore (.createReminder title minutes now) _
  | listReminders => exact actsOn_ofStore .listActiveReminders _
  | cancelReminder => exact actsOn_withParams _ fun id => actsOn_ofStore (.cancelReminder id) _

theorem actsOn_answer {frame : Frame} (hframe : daemon.requestFamily? frame = some family) :
    ActsOn daemon.config daemon.store places base family fun disk => daemon.answer now frame disk := by
  unfold requestFamily? at hframe
  unfold answer
  cases hrequest : daemon.request frame with
  | error e =>
      rw [hrequest] at hframe
      cases hframe
  | ok request =>
      rw [hrequest] at hframe
      obtain ⟨method, hmethod, rfl⟩ := Option.map_eq_some_iff.mp hframe
      dsimp only [invoke]
      rw [hmethod]
      exact (actsOn_perform method request.params).map Response.ofResult

theorem exists_answer_eq {frame : Frame} (hframe : daemon.requestFamily? frame = none)
    (now : Instant) :
    ∃ response, ∀ disk, daemon.answer now frame disk = (response, disk) := by
  unfold requestFamily? at hframe
  unfold answer
  cases hrequest : daemon.request frame with
  | error e => exact ⟨_, fun _ => rfl⟩
  | ok request =>
      rw [hrequest] at hframe
      have hmethod : Method.ofName? request.method = none := Option.map_eq_none_iff.mp hframe
      dsimp only [invoke]
      rw [hmethod]
      exact ⟨_, fun _ => rfl⟩

theorem actsOn_performNote (deed : NoteDeed) :
    ActsOn daemon.config daemon.store places base .notes fun disk =>
      daemon.store.performNote disk deed := by
  cases deed with
  | append content now => exact (ActsOn.appendNote content now).map _
  | search text limit => exact (ActsOn.searchNotes text limit).map _
  | read => exact ActsOn.readNotes.map _

theorem rewrites_apply (path : String) (deed : FileDeed) :
    Disk.Rewrites (Path.place path) (deed.apply path) := by
  cases deed with
  | write bytes => exact Disk.rewrites_write path bytes
  | append bytes => exact Disk.rewrites_append path bytes
  | remove => exact Disk.rewrites_remove path
  | makeDirectory => exact Disk.rewrites_makeDirectory path

theorem add_cases (log : MessageLog) (now : Instant) (messages : List Message) (disk : Disk) :
    log.add now messages disk = disk ∨
      ∃ bytes, disk.append log.path bytes = .ok (log.add now messages disk) := by
  unfold MessageLog.add
  split
  · exact .inl rfl
  · dsimp only
    generalize Utf8.encode _ = bytes
    cases happend : disk.append log.path bytes with
    | error fault => exact .inl rfl
    | ok after => exact .inr ⟨bytes, happend⟩

theorem serves_add {log : MessageLog} (hlog : Path.place log.path ∈ places) (now : Instant)
    (messages : List Message) {disk : Disk} {records : Records}
    (h : Serves daemon.config daemon.store places base disk records) :
    Serves daemon.config daemon.store places base (log.add now messages disk) records := by
  rcases add_cases log now messages disk with hsame | ⟨bytes, happend⟩
  · rw [hsame]
    exact h
  · obtain ⟨before, hbefore⟩ := h.report _ hlog
    rw [Disk.append_of_file happend hbefore]
    exact h.setReport hlog _

theorem actsOn_add {log : MessageLog} (hlog : Path.place log.path ∈ places) (now : Instant)
    (messages : List Message) :
    ActsOn daemon.config daemon.store places base family fun disk =>
      ((), log.add now messages disk) := by
  intro disk disk' records records' h h' hrecord
  refine ⟨rfl, records.get family, ?_, ?_⟩
  · rw [Records.set_get]
    exact serves_add hlog now messages h
  · rw [hrecord, Records.set_get]
    exact serves_add hlog now messages h'

theorem actsOn_respond {frame : Frame} (hlog : ∀ messages ∈ log, Path.place messages.path ∈ places)
    (hanswer : ActsOn daemon.config daemon.store places base family fun disk =>
      daemon.answer now frame disk) :
    ActsOn daemon.config daemon.store places base family fun disk =>
      daemon.respond log now frame disk := by
  cases log with
  | none => exact hanswer
  | some log =>
      have hlog : Path.place log.path ∈ places := hlog log rfl
      exact ((actsOn_add hlog now (daemon.reportBefore frame)).bind fun _ =>
        hanswer.bind fun response =>
          (actsOn_add hlog now (daemon.reportAfter now frame response)).map fun _ =>
            response).of_eq fun _ => rfl

theorem actsOn_act {incident : Incident} (hlog : ∀ messages ∈ log, Path.place messages.path ∈ places)
    (hconcerns : daemon.concerns family incident = true) (now : Instant) :
    ActsOn daemon.config daemon.store places base family (daemon.act log now incident) := by
  unfold concerns at hconcerns
  cases incident with
  | request frame =>
      refine (actsOn_respond hlog ?_).map Upshot.response
      cases hframe : daemon.requestFamily? frame with
      | none =>
          obtain ⟨response, hanswer⟩ := exists_answer_eq hframe now
          exact (ActsOn.const response).of_eq hanswer
      | some other =>
          rw [family?, hframe, Option.all_some] at hconcerns
          obtain rfl : other = family := beq_iff_eq.mp hconcerns
          exact actsOn_answer hframe
  | note deed =>
      obtain rfl := beq_iff_eq.mp hconcerns
      exact (actsOn_performNote (deed now)).map Upshot.note
  | task deed =>
      obtain rfl := beq_iff_eq.mp hconcerns
      exact (ActsOn.performTask (deed now)).map Upshot.task
  | reminder deed =>
      obtain rfl := beq_iff_eq.mp hconcerns
      exact (ActsOn.performReminder (deed now)).map Upshot.reminder
  | editNotes deed =>
      obtain rfl := beq_iff_eq.mp hconcerns
      exact (ActsOn.attempt (rewrites_apply _ deed)).map Upshot.file
  | editTasks f =>
      obtain rfl := beq_iff_eq.mp hconcerns
      exact (ActsOn.editTasks f).map Upshot.rows
  | editReminders f =>
      obtain rfl := beq_iff_eq.mp hconcerns
      exact (ActsOn.editReminders f).map Upshot.rows
  | clock seconds => exact .const _

theorem time_eq {incident : Incident} (hfamily : daemon.family? incident = some family)
    (now : Instant) : incident.time now = now := by
  cases incident with
  | clock seconds => cases hfamily
  | request _ | note _ | task _ | reminder _ | editNotes _ | editTasks _ | editReminders _ => rfl

/-- Two scenes at the same time, with the same records of a family. -/
def Agree (daemon : Daemon) (log : Option MessageLog) (base : Disk) (family : Family)
    (scene scene' : Scene) : Prop :=
  scene.now = scene'.now ∧ ∃ records records',
    Serves daemon.config daemon.store (reports log) base scene.disk records ∧
      Serves daemon.config daemon.store (reports log) base scene'.disk records' ∧
      records.get family = records'.get family

variable {scene scene' : Scene} {incident : Incident}

theorem Agree.step (h : daemon.Agree log base family scene scene')
    (hconcerns : daemon.concerns family incident = true) :
    (daemon.step log scene incident).1 = (daemon.step log scene' incident).1 ∧
      daemon.Agree log base family (daemon.step log scene incident).2
        (daemon.step log scene' incident).2 := by
  obtain ⟨htime, records, records', hserves, hserves', hrecord⟩ := h
  obtain ⟨hanswer, record, hafter, hafter'⟩ :=
    actsOn_act mem_reports hconcerns scene.now hserves hserves' hrecord
  unfold Daemon.step
  rw [← htime]
  exact ⟨hanswer, rfl, _, _, hafter, hafter', by simp⟩

theorem Agree.skip (h : daemon.Agree log base family scene scene')
    (hconcerns : daemon.concerns family incident = false) :
    daemon.Agree log base family (daemon.step log scene incident).2 scene' := by
  obtain ⟨htime, records, records', hserves, hserves', hrecord⟩ := h
  unfold concerns at hconcerns
  cases hfamily : daemon.family? incident with
  | none =>
      rw [hfamily] at hconcerns
      cases hconcerns
  | some other =>
      rw [hfamily, Option.all_some] at hconcerns
      have hne : family ≠ other := (beq_eq_false_iff_ne.mp hconcerns).symm
      have hother : daemon.concerns other incident = true := by simp [concerns, hfamily]
      obtain ⟨-, record, hafter, -⟩ := actsOn_act mem_reports hother scene.now hserves hserves rfl
      refine ⟨(time_eq hfamily scene.now).trans htime, _, records', hafter, hserves', ?_⟩
      rw [Records.get_set_of_ne _ hne]
      exact hrecord

end Daemon

/-- The records of a family are the same on two disks. A table is there on both, with the same rows and
the same number given out last. -/
def Store.HasSame (store : Store) (disk disk' : Disk) : Family → Prop
  | .notes => store.notes.read? disk = store.notes.read? disk'
  | .tasks => ∃ table, disk.taskTable store.tasks = .ok table ∧
      disk'.taskTable store.tasks = .ok table
  | .reminders => ∃ table, disk.reminderTable store.reminders = .ok table ∧
      disk'.reminderTable store.reminders = .ok table

/-- A log of messages stands as a file, which is neither that of the notes nor one of a database. -/
structure MessageLog.StandsApart (log : MessageLog) (config : Config) (disk : Disk) : Prop where
  notes : Path.place log.path ≠ config.place .notes
  tasks : Path.place log.path ∉ Disk.family (config.place .tasks)
  reminders : Path.place log.path ∉ Disk.family (config.place .reminders)
  file : ∃ bytes, disk.find? (Path.place log.path) = some (.file bytes)

namespace Daemon

open Store

variable {daemon : Daemon} {log : Option MessageLog} {base start disk : Disk} {family : Family}
  {scene scene' : Scene}

theorem Agree.hasSame (h : daemon.Agree log base family scene scene') :
    daemon.store.HasSame scene.disk scene'.disk family := by
  obtain ⟨-, records, records', hserves, hserves', hrecord⟩ := h
  cases family with
  | notes => exact hserves.read?_eq hserves' hrecord
  | tasks =>
      have htasks : records.tasks = records'.tasks := hrecord
      exact ⟨records.tasks, hserves.taskTable, htasks ▸ hserves'.taskTable⟩
  | reminders =>
      have hreminders : records.reminders = records'.reminders := hrecord
      exact ⟨records.reminders, hserves.reminderTable, hreminders ▸ hserves'.reminderTable⟩

section

variable
  (hplain : Address.IsPlain daemon.config.tasksPath ∧
    Address.IsPlain daemon.config.remindersPath)
  (hdatabases : daemon.config.place .tasks = daemon.config.place .reminders ∨
    daemon.config.place .tasks ∉ Disk.family (daemon.config.place .reminders) ∧
      daemon.config.place .reminders ∉ Disk.family (daemon.config.place .tasks))
  (hnotes : daemon.config.place .notes ∉ Disk.family (daemon.config.place .tasks) ∧
    daemon.config.place .notes ∉ Disk.family (daemon.config.place .reminders))
  (hlog : ∀ messages ∈ log, messages.StandsApart daemon.config disk)
  (hentered : IsEntered daemon.config start daemon.store disk)
include hplain hdatabases hnotes hlog hentered

theorem exists_serves :
    ∃ records, Serves daemon.config daemon.store (reports log) disk disk records := by
  have hfiles : daemon.config.HasPlainFiles :=
    ⟨hplain.1, hplain.2, hdatabases.imp_right fun hnamed _ hthere =>
      Disk.not_mem_family hnamed.1 hnamed.2 hthere⟩
  refine hentered.serves hfiles hnotes.1 hnotes.2 ?_
  rintro _ hthere
  obtain ⟨messages, hmessages, rfl⟩ := List.mem_map.mp hthere
  have hapart := hlog messages (Option.mem_toList.mp hmessages)
  exact ⟨hapart.notes, hapart.tasks, hapart.reminders, hapart.file⟩

/-- The families do not interfere. The databases are in one file, or in two of which neither is named
like a file beside the other; the notes are in none of their files, and the messages of the daemon, if
it writes any, neither in these nor with the notes. Then whatever happens after the store has been
opened, what is answered to the incidents that are about one family or about none, and what is left of
the records of that family, is the same as when nothing else happens. -/
theorem play_filter_concerns (now : Instant) (incidents : List Incident) (family : Family) :
    ((incidents.zip (play (daemon.step log) ⟨disk, now⟩ incidents).1).filter fun pair =>
        daemon.concerns family pair.1).map Prod.snd =
      (play (daemon.step log) ⟨disk, now⟩ (incidents.filter (daemon.concerns family))).1 ∧
    daemon.store.HasSame (play (daemon.step log) ⟨disk, now⟩ incidents).2.disk
      (play (daemon.step log) ⟨disk, now⟩ (incidents.filter (daemon.concerns family))).2.disk
      family := by
  obtain ⟨records, hserves⟩ := exists_serves hplain hdatabases hnotes hlog hentered
  have hstart : daemon.Agree log disk family ⟨disk, now⟩ ⟨disk, now⟩ :=
    ⟨rfl, records, records, hserves, hserves, rfl⟩
  have hstep : ∀ {scene scene' : Scene} {incident : Incident},
      daemon.concerns family incident = true → daemon.Agree log disk family scene scene' →
      (daemon.step log scene incident).1 = (daemon.step log scene' incident).1 ∧
        daemon.Agree log disk family (daemon.step log scene incident).2
          (daemon.step log scene' incident).2 :=
    fun hconcerns h => h.step hconcerns
  have hskip : ∀ {scene scene' : Scene} {incident : Incident},
      daemon.concerns family incident = false → daemon.Agree log disk family scene scene' →
      daemon.Agree log disk family (daemon.step log scene incident).2 scene' :=
    fun hconcerns h => h.skip hconcerns
  obtain ⟨hanswers, hlast⟩ := play_filter hstep hskip hstart incidents
  exact ⟨hanswers, hlast.hasSame⟩

end

/-- A daemon whose two tables are in one file. -/
def sharedDaemon : Daemon :=
  ⟨{ stateDir := "state", remindersDb := "tasks.db" },
    ⟨⟨"state/notes.md"⟩, ⟨0, true⟩, ⟨0, true⟩⟩⟩

/-- A file for messages in a state directory that holds nothing else. -/
def loggedDisk : Disk :=
  ((Disk.empty.makeDirectories "state").2.append "state/execd.log" []).toOption.getD .empty

def stateLog : MessageLog := ⟨"state/execd.log", .upTo .info⟩

def loggedShared : Disk := (Store.openAt sharedDaemon.config loggedDisk).2

theorem hasNoPart_loggedDisk (place : Place) : loggedDisk.HasNoPart place := by
  have hempty : ∀ place, (Disk.empty.makeDirectories "state").2.HasNoPart place := fun place =>
    (Disk.isFresh_empty.parts place).gain (Disk.gainsDirectories_makeDirectories .empty _)
  have happend : (Disk.empty.makeDirectories "state").2.append "state/execd.log" [] =
      .ok loggedDisk := by decide +kernel
  by_cases hplace : place = Path.place "state/execd.log"
  · subst hplace
    exact Disk.hasNoPart_append happend (hempty _)
  · exact (hempty place).of_find (Disk.find?_append_of_ne happend hplace)

theorem isEntered_loggedShared :
    IsEntered sharedDaemon.config loggedDisk sharedDaemon.store loggedShared where
  working := by decide +kernel
  notes := hasNoPart_loggedDisk _
  tasks := Or.inl fun _ _ => hasNoPart_loggedDisk _
  reminders := Or.inl fun _ _ => hasNoPart_loggedDisk _
  opened := by decide +kernel

theorem standsApart_stateLog : stateLog.StandsApart sharedDaemon.config loggedShared where
  notes := by decide +kernel
  tasks := by decide +kernel
  reminders := by decide +kernel
  file := ⟨[], by decide +kernel⟩

/-- A task is made, completed and looked for, amid all else. -/
def busyDay : List Incident :=
  [.task fun now => .create ⟨"Buy milk", none, .medium⟩ now,
    .reminder fun now => .create "Tea" 5 now,
    .note fun now => .append "Rain" now,
    .clock 43200,
    .editReminders fun table => table.fire 1,
    .editNotes .remove,
    .request (.line (Utf8.encode "\x7b\"method\":\"cancel_reminder\"\x7d".toList)),
    .task fun now => .complete 1 now,
    .task fun _ => .get 2]

theorem play_filter_concerns_busyDay :
    IsEntered sharedDaemon.config loggedDisk sharedDaemon.store loggedShared ∧
      stateLog.StandsApart sharedDaemon.config loggedShared ∧
      ((busyDay.zip (play (sharedDaemon.step stateLog) ⟨loggedShared, .epoch⟩ busyDay).1).filter
        fun pair => sharedDaemon.concerns .tasks pair.1).map Prod.snd =
          [.task (.ok (.created 1)), .clock (.ok .noon), .task (.ok .completed),
            .task (.error (.taskNotFound 2))] := by
  have hlog : ∀ messages ∈ some stateLog,
      messages.StandsApart sharedDaemon.config loggedShared := by
    rintro _ ⟨⟩
    exact standsApart_stateLog
  have hplain : Address.IsPlain sharedDaemon.config.tasksPath ∧
      Address.IsPlain sharedDaemon.config.remindersPath := ⟨rfl, rfl⟩
  have hsame : sharedDaemon.config.place .tasks = sharedDaemon.config.place .reminders := rfl
  have hnotes : sharedDaemon.config.place .notes ∉
        Disk.family (sharedDaemon.config.place .tasks) ∧
      sharedDaemon.config.place .notes ∉
        Disk.family (sharedDaemon.config.place .reminders) := by decide +kernel
  have halone := (play_filter_concerns hplain (.inl hsame) hnotes hlog isEntered_loggedShared
    .epoch busyDay .tasks).1
  refine ⟨isEntered_loggedShared, standsApart_stateLog, halone.trans ?_⟩
  decide +kernel

/-- A state directory in which the notes are to be kept where the messages of the daemon go. -/
def mixedDisk : Disk :=
  ((Disk.empty.makeDirectories "state").2.write "state/config.toml"
    (Utf8.encode "notes_file = \"execd.log\"".toList)).toOption.getD .empty

def mixedDaemon : Daemon :=
  ⟨{ stateDir := "state", notesFile := "execd.log" },
    ⟨⟨"state/execd.log"⟩, ⟨0, true⟩, ⟨1, true⟩⟩⟩

/-- A task without a title is asked for, a note is taken, and it is looked for. -/
def mixedDay : List Incident :=
  [.request (.line (Utf8.encode "\x7b\"method\":\"create_task\"\x7d".toList)),
    .note fun now => .append "milk" now,
    .note fun _ => .search "milk" 1]

/-- The disk after a store has been opened on it and closed again. -/
def reopened (config : Config) (disk : Disk) : Disk :=
  match Store.openAt config disk with
  | (.ok store, disk) => store.close disk
  | (.error _, disk) => disk

/-- A directory that two stores have used, the one for its reminders, the other one for its tasks. -/
def buriedDisk (dir : String) : Disk :=
  reopened { stateDir := dir, tasksDb := "reminders.db-wal", remindersDb := "b.db" }
    (reopened { stateDir := dir, tasksDb := "a.db" } .empty)

/-- A daemon whose tasks are kept where the database of the reminders has its log. -/
def buriedDaemon (dir tasksDb : String) : Daemon :=
  ⟨{ stateDir := dir, tasksDb }, ⟨⟨Path.join dir "notes.md"⟩, ⟨2, true⟩, ⟨1, true⟩⟩⟩

/-- A reminder is made, and the tasks are listed. -/
def buriedDay : List Incident :=
  [.reminder fun now => .create "Tea" 5 now, .task fun _ => .listPending]

/-- Where the messages of the daemon go to the notes, a task that is refused moves the notes. Where a
database is named like the log of the other one, or lies there by an address that names the file
otherwise, what is written to the log goes over its body. -/
theorem families_interfere :
    (let (started, disk) := CommandLine.start "state" [] .epoch mixedDisk
      let config := mixedDaemon.config
      started = .ok ⟨mixedDaemon, stateLog⟩ ∧
        config.place .notes ∉ Disk.family (config.place .tasks) ∧
        config.place .notes ∉ Disk.family (config.place .reminders) ∧
        ((mixedDay.zip (play (mixedDaemon.step stateLog) ⟨disk, .epoch⟩ mixedDay).1).filter
          fun pair => mixedDaemon.concerns .notes pair.1).map Prod.snd =
            [.note (.ok .appended), .note (.ok (.found [⟨"execd.log", 6, "milk"⟩]))] ∧
        (play (mixedDaemon.step stateLog) ⟨disk, .epoch⟩
          (mixedDay.filter (mixedDaemon.concerns .notes))).1 =
            [.note (.ok .appended), .note (.ok (.found [⟨"execd.log", 5, "milk"⟩]))]) ∧
      ∀ used ∈ [("state", "reminders.db-wal"), ("", "file:reminders.db-wal")],
        let daemon := buriedDaemon used.1 used.2
        let (opened, disk) := Store.openAt daemon.config (buriedDisk used.1)
        let config := daemon.config
        opened = .ok daemon.store ∧
          config.place .notes ∉ Disk.family (config.place .tasks) ∧
          config.place .notes ∉ Disk.family (config.place .reminders) ∧
          ((buriedDay.zip (play (daemon.step none) ⟨disk, .epoch⟩ buriedDay).1).filter
            fun pair => daemon.concerns .tasks pair.1).map Prod.snd =
              [.task (.error (.database .damaged))] ∧
          (play (daemon.step none) ⟨disk, .epoch⟩
            (buriedDay.filter (daemon.concerns .tasks))).1 = [.task (.ok (.listed []))] := by
  decide +kernel

end Daemon

end Daybook
