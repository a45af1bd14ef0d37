import Daybook.Proofs.Daemon.Families
import Daybook.Proofs.Daemon.Serving
import Daybook.Proofs.Note.Growth

namespace Daybook

open NoteLog (grown)

namespace Daemon

variable {daemon : Daemon} {now : Instant} {disk : Disk}

theorem resembles_createTask (store : Store) (task : NewTask) :
    disk.Resembles (store.createTask task now disk).2 := by
  unfold Store.createTask
  split
  · exact .refl disk
  · exact Disk.resembles_changeTasks disk _

theorem resembles_createReminder (store : Store) (title : String) (minutes : Int) :
    disk.Resembles (store.createReminder title minutes now disk).2 :=
  Store.of_createReminder (.refl disk) fun _ => Disk.resembles_changeReminders disk _

/-- A request that takes no note leaves all files as they are, but for the parts of databases. -/
theorem resembles_perform {method : Method} (hmethod : method ≠ .takeNote) (params : Params) :
    disk.Resembles (daemon.perform now method params disk).2 := by
  have hsame : disk.Resembles disk := .refl disk
  cases method with
  | takeNote => exact absurd rfl hmethod
  | searchNotes => exact Outcome.of_withParams hsame fun _ => Outcome.of_ofStore hsame
  | createTask =>
      exact Outcome.of_withParams hsame fun _ => Outcome.of_ofStore (resembles_createTask _ _)
  | listTasks => exact Outcome.of_ofStore hsame
  | completeTask =>
      exact Outcome.of_withParams hsame fun _ =>
        Outcome.of_ofStore (Disk.resembles_changeTasks disk _)
  | createReminder =>
      exact Outcome.of_withParams hsame fun _ =>
        Outcome.of_ofStore (resembles_createReminder _ _ _)
  | listReminders => exact Outcome.of_ofStore hsame
  | cancelReminder =>
      exact Outcome.of_withParams hsame fun _ =>
        Outcome.of_ofStore (Disk.resembles_changeReminders disk _)

end Daemon

/-- A request to one of the daemons that serve a disk, the log that this daemon reports to if there is
one, and when the request is answered. -/
structure Call where
  daemon : Daemon
  log : Option MessageLog
  now : Instant
  frame : Frame

namespace Call

def answer (disk : Disk) (call : Call) : Response × Disk :=
  call.daemon.respond call.log call.now call.frame disk

/-- The note that a call asks to be taken. -/
def note? (call : Call) : Option (String × Instant) :=
  match call.daemon.request call.frame with
  | .error _ => none
  | .ok request =>
      match Method.ofName? request.method, request.params.text "content" with
      | some .takeNote, .ok content => some (content, call.now)
      | _, _ => none

/-- The notes of the calls that were answered with success. -/
def taken (calls : List Call) (responses : List Response) : List (String × Instant) :=
  (calls.zip responses).filterMap fun pair => if pair.2.isSuccess then pair.1.note? else none

theorem taken_cons (call : Call) (response : Response) (calls : List Call)
    (responses : List Response) :
    taken (call :: calls) (response :: responses) =
      taken [call] [response] ++ taken calls responses := by
  rw [taken, List.zip_cons_cons, ← List.singleton_append, List.filterMap_append]
  rfl

variable {call : Call} {log : NoteLog} {disk : Disk}

theorem note?_eq_some_iff {content : String} {t : Instant} :
    call.note? = some (content, t) ↔
      ∃ request, call.daemon.request call.frame = .ok request ∧
        Method.ofName? request.method = some .takeNote ∧
        request.params.text "content" = .ok content ∧ call.now = t := by
  unfold note?
  cases call.daemon.request call.frame with
  | error e => exact ⟨nofun, fun ⟨_, h, _⟩ => nomatch h⟩
  | ok request =>
      dsimp only
      constructor
      · intro h
        split at h
        · cases h
          exact ⟨request, rfl, ‹_›, ‹_›, rfl⟩
        · cases h
      · rintro ⟨_, ⟨⟩, hmethod, hcontent, rfl⟩
        rw [hmethod, hcontent]

theorem resembles_answer (h : call.note? = none) (disk : Disk) :
    disk.Resembles (call.daemon.answer call.now call.frame disk).2 := by
  unfold Daemon.answer
  cases hrequest : call.daemon.request call.frame with
  | error e => exact .refl disk
  | ok request =>
      change disk.Resembles (call.daemon.invoke call.now request.method request.params disk).2
      unfold Daemon.invoke
      cases hmethod : Method.ofName? request.method with
      | none => exact .refl disk
      | some method =>
          dsimp only
          by_cases htake : method = .takeNote
          · subst htake
            cases hcontent : request.params.text "content" with
            | ok content =>
                rw [note?_eq_some_iff.mpr ⟨request, hrequest, hmethod, hcontent, rfl⟩] at h
                cases h
            | error e =>
                unfold Daemon.perform
                rw [hcontent]
                exact .refl disk
          · exact Daemon.resembles_perform htake request.params

theorem answer_of_note {content : String} {t : Instant} (h : call.note? = some (content, t))
    (disk : Disk) :
    let answered := call.daemon.answer call.now call.frame disk
    match call.daemon.store.notes.append content t disk with
    | .ok after => answered.1.isSuccess = true ∧ answered.2 = after
    | .error _ => answered.1.isSuccess = false ∧ answered.2 = disk := by
  obtain ⟨request, hrequest, hmethod, hcontent, rfl⟩ := note?_eq_some_iff.mp h
  simp only [Daemon.answer, hrequest, Daemon.invoke, hmethod, Daemon.perform, hcontent,
    Outcome.withParams, Store.appendNote]
  cases call.daemon.store.notes.append content call.now disk with
  | ok after => exact ⟨rfl, rfl⟩
  | error e => exact ⟨rfl, rfl⟩

theorem map_grown_nil (result : Except Error (Option (List UInt8))) :
    result.map (grown []) = result := by
  cases result <;> rfl

/-- From one disk to another some notes have been added to a log, which is a file of its own, and no
place has become free. -/
structure Gains (log : NoteLog) (disk after : Disk) (notes : List (String × Instant)) : Prop where
  apart : after.HasNoPart (Path.place log.path)
  read : log.read? after = (log.read? disk).map (grown notes)
  taken : ∀ there, disk.find? there ≠ none → after.find? there ≠ none

theorem Gains.trans {mid after : Disk} {earlier later : List (String × Instant)}
    (h : Gains log disk mid earlier) (h' : Gains log mid after later) :
    Gains log disk after (earlier ++ later) where
  apart := h'.apart
  read := by
    rw [h'.read, h.read]
    cases log.read? disk with
    | error e => rfl
    | ok found => exact congrArg Except.ok (NoteLog.grown_append _ _ found).symm
  taken there hthere := h'.taken there (h.taken there hthere)

theorem Gains.of_sameLayout {after : Disk} (h : disk.SameLayout after)
    (hsame : after.find? (Path.place log.path) = disk.find? (Path.place log.path))
    (hpart : disk.HasNoPart (Path.place log.path)) : Gains log disk after [] where
  apart := hpart.of_find hsame
  read := by rw [map_grown_nil, NoteLog.read?_of_sameLayout h hsame hpart]
  taken _ hthere := h.find?_ne_none hthere

theorem gains_append {content : String} {t : Instant} {after : Disk}
    (h : log.append content t disk = .ok after) (hpart : disk.HasNoPart (Path.place log.path)) :
    Gains log disk after [(content, t)] where
  apart := Disk.hasNoPart_append (NoteLog.append_eq_ok_iff.mp h) hpart
  read := NoteLog.read?_append h
  taken there hthere := by
    by_cases hplace : there = Path.place log.path
    · subst hplace
      exact (Disk.sameLayout_append (NoteLog.append_eq_ok_iff.mp h) hthere).find?_ne_none hthere
    · rw [Disk.find?_append_of_ne (NoteLog.append_eq_ok_iff.mp h) hplace]
      exact hthere

/-- The messages of a daemon go to a file of their own. -/
def ReportsApart (log : NoteLog) (disk : Disk) (messages : MessageLog) : Prop :=
  Path.place messages.path ≠ Path.place log.path ∧ disk.find? (Path.place messages.path) ≠ none
deriving Decidable

theorem gains_add {messages : MessageLog} (h : ReportsApart log disk messages)
    (hpart : disk.HasNoPart (Path.place log.path)) (now : Instant) (texts : List Message) :
    Gains log disk (messages.add now texts disk) [] := by
  rcases Daemon.add_cases messages now texts disk with hsame | ⟨bytes, happend⟩
  · rw [hsame]
    exact .of_sameLayout (.refl disk) rfl hpart
  · exact .of_sameLayout (Disk.sameLayout_append happend h.2)
      (Disk.find?_append_of_ne happend h.1.symm) hpart

theorem gains_daemon_answer (hcall : call.daemon.store.notes = log)
    (hpart : disk.HasNoPart (Path.place log.path)) :
    let answered := call.daemon.answer call.now call.frame disk
    Gains log disk answered.2 (taken [call] [answered.1]) := by
  intro answered
  cases hnote : call.note? with
  | none =>
      have hsame : disk.Resembles answered.2 := resembles_answer hnote disk
      have htaken : taken [call] [answered.1] = [] := by simp [taken, hnote]
      rw [htaken]
      exact .of_sameLayout hsame.sameLayout (hsame.find hpart) hpart
  | some note =>
      obtain ⟨content, t⟩ := note
      have hanswer := answer_of_note hnote disk
      rw [hcall] at hanswer
      cases happend : log.append content t disk with
      | error e =>
          rw [happend] at hanswer
          obtain ⟨hfailed, hdisk⟩ := hanswer
          have htaken : taken [call] [answered.1] = [] := by simp [taken, answered, hfailed]
          have hdisk : answered.2 = disk := hdisk
          rw [htaken, hdisk]
          exact .of_sameLayout (.refl disk) rfl hpart
      | ok after =>
          rw [happend] at hanswer
          obtain ⟨hsuccess, hdisk⟩ := hanswer
          have htaken : taken [call] [answered.1] = [(content, t)] := by
            simp [taken, answered, hsuccess, hnote]
          have hdisk : answered.2 = after := hdisk
          rw [htaken, hdisk]
          exact gains_append happend hpart

/-- One call adds the note that it takes to the log, if it takes one, and nothing else, whatever the
daemon reports of it. -/
theorem gains_answer (hcall : call.daemon.store.notes = log)
    (hreports : ∀ messages ∈ call.log, ReportsApart log disk messages)
    (hpart : disk.HasNoPart (Path.place log.path)) :
    Gains log disk (call.answer disk).2 (taken [call] [(call.answer disk).1]) := by
  unfold answer Daemon.respond
  cases hlog : call.log with
  | none => exact gains_daemon_answer hcall hpart
  | some messages =>
      have happart := hreports messages hlog
      let before := messages.add call.now (call.daemon.reportBefore call.frame) disk
      have hbefore : Gains log disk before [] := gains_add happart hpart _ _
      have hanswer := gains_daemon_answer hcall hbefore.apart
      have hmid := hbefore.trans hanswer
      have hafter := gains_add ⟨happart.1, hmid.taken _ happart.2⟩ hmid.apart call.now
        (call.daemon.reportAfter call.now call.frame
          (call.daemon.answer call.now call.frame before).1)
      have hall := hmid.trans hafter
      rw [List.nil_append, List.append_nil] at hall
      exact hall

theorem gains_play (hpart : disk.HasNoPart (Path.place log.path)) {calls : List Call}
    (hcalls : ∀ call ∈ calls, call.daemon.store.notes = log ∧
      ∀ messages ∈ call.log, ReportsApart log disk messages) :
    Gains log disk (play answer disk calls).2 (taken calls (play answer disk calls).1) := by
  -- Each call leaves the log a file of its own, and those of the messages where they are, which the
  -- next one needs.
  induction calls generalizing disk with
  | nil => exact .of_sameLayout (.refl disk) rfl hpart
  | cons call calls ih =>
      obtain ⟨hnotes, hreports⟩ := hcalls call List.mem_cons_self
      have hfirst := gains_answer hnotes hreports hpart
      have hrest := ih hfirst.apart fun other hother =>
        ⟨(hcalls other (List.mem_cons_of_mem _ hother)).1, fun messages hmessages =>
          have happart := (hcalls other (List.mem_cons_of_mem _ hother)).2 messages hmessages
          ⟨happart.1, hfirst.taken _ happart.2⟩⟩
      rw [play, taken_cons call _ calls]
      exact hfirst.trans hrest

def ofLine (daemon : Daemon) (log : Option MessageLog) (times : Nat → Instant)
    (line : Line × Nat) : Call :=
  ⟨daemon, log, times line.2, line.1.frame daemon.config.maxLineBytes⟩

theorem serve_eq_play (daemon : Daemon) (log : Option MessageLog) (times : Nat → Instant)
    (source : Source) (disk : Disk) :
    let run := play answer disk ((linesOf source.flatten).zipIdx.map (ofLine daemon log times))
    (daemon.serve log times none source disk).written = run.1 ∧
      (daemon.serve log times none source disk).disk = run.2 := by
  intro run
  have hrun : run = play (Service.step daemon.config.maxLineBytes fun n =>
      daemon.respond log (times n)) disk (linesOf source.flatten).zipIdx :=
    play_map answer (ofLine daemon log times) disk _
  rw [hrun, Daemon.serve, Service.serve_eq]
  exact ⟨rfl, rfl⟩

/-- A log of notes that is no part of a database, is not where messages go, and ends its last line only
grows, whatever calls are answered, and by whichever daemons that keep their notes there. The notes of
the calls that were answered with success stand behind what was there, in their order, and a search
finds what it found before at the head of what it finds now. So it is when a whole input is served. -/
theorem log_grows (hpart : disk.HasNoPart (Path.place log.path)) (hend : log.EndsLine disk) :
    (∀ {calls : List Call},
      (∀ call ∈ calls, call.daemon.store.notes = log ∧
        ∀ messages ∈ call.log, ReportsApart log disk messages) →
      let run := play answer disk calls
      log.Grows disk run.2 (taken calls run.1)) ∧
    ∀ (daemon : Daemon) (messages : Option MessageLog) (times : Nat → Instant) (source : Source),
      daemon.store.notes = log → (∀ place ∈ messages, ReportsApart log disk place) →
      let served := daemon.serve messages times none source disk
      log.Grows disk served.disk
        (taken ((linesOf source.flatten).zipIdx.map (ofLine daemon messages times))
          served.written) := by
  have hcalls : ∀ {calls : List Call},
      (∀ call ∈ calls, call.daemon.store.notes = log ∧
        ∀ messages ∈ call.log, ReportsApart log disk messages) →
      log.Grows disk (play answer disk calls).2 (taken calls (play answer disk calls).1) :=
    fun hcalls => .of_read (gains_play hpart hcalls).read hend
  refine ⟨hcalls, ?_⟩
  intro daemon messages times source hlog hmessages served
  obtain ⟨hwritten, hdisk⟩ := serve_eq_play daemon messages times source disk
  rw [hwritten, hdisk]
  refine hcalls fun call hcall => ?_
  obtain ⟨line, -, rfl⟩ := List.mem_map.mp hcall
  exact ⟨hlog, hmessages⟩

def ofText (daemon : Daemon) (log : Option MessageLog) (text : String) : Call :=
  ⟨daemon, log, .epoch, .line (Utf8.encode text.toList)⟩

def milkText : String := "\x7b\"method\":\"take_note\",\"params\":\x7b\"content\":\"milk\"\x7d\x7d"

def taskText : String := "\x7b\"method\":\"create_task\",\"params\":\x7b\"title\":\"t\"\x7d\x7d"

def blankText : String := "\x7b\"method\":\"take_note\"\x7d"

/-- A new disk where messages go to a file beside the notes. -/
def reportDisk : Disk := (Store.openAt newConfig Daemon.loggedDisk).2

theorem log_grows_reportDisk :
    let messages := some Daemon.stateLog
    let calls := [milkText, taskText, blankText, milkText].map (ofText Daemon.newDaemon messages)
    let run := play answer reportDisk calls
    let times := fun _ => Instant.epoch
    let source := [Utf8.encode milkText.toList]
    let served := Daemon.newDaemon.serve messages times none source reportDisk
    let log := newStore.notes
    (reportDisk.HasNoPart (Path.place log.path) ∧ log.EndsLine reportDisk ∧
        ReportsApart log reportDisk Daemon.stateLog ∧
        ∀ call ∈ calls, call.daemon.store.notes = log ∧ call.log = messages) ∧
      (log.read? run.2 = .ok (some (NoteEntry.written [("milk", .epoch), ("milk", .epoch)])) ∧
        ∃ more, log.search "n" 1 run.2 = (log.search "n" 1 reportDisk).map (· ++ more)) ∧
      log.read? served.disk = .ok (some (NoteEntry.written [("milk", .epoch)])) := by
  intro messages calls run times source served log
  have hfree : reportDisk.find? (Path.place log.path) = none := by decide +kernel
  have hpart : reportDisk.HasNoPart (Path.place log.path) := by
    intro number part intact bytes
    rw [hfree]
    exact nofun
  have hread : log.read? reportDisk = .ok none := by decide +kernel
  have hend : log.EndsLine reportDisk := by
    intro bytes hbytes
    rw [hread] at hbytes
    cases hbytes
  have happart : ReportsApart log reportDisk Daemon.stateLog := by decide +kernel
  have hmessages : ∀ place ∈ messages, ReportsApart log reportDisk place :=
    fun place hplace => Option.some.inj hplace ▸ happart
  have hcalls : ∀ call ∈ calls, call.daemon.store.notes = log ∧ call.log = messages := by decide
  have heach : ∀ call ∈ calls, call.daemon.store.notes = log ∧
      ∀ place ∈ call.log, ReportsApart log reportDisk place := fun call hcall =>
    ⟨(hcalls call hcall).1, (hcalls call hcall).2 ▸ hmessages⟩
  obtain ⟨hrun, hserved⟩ := log_grows hpart hend
  obtain ⟨hgrown, hsearch⟩ := hrun heach
  have hone := (hserved Daemon.newDaemon messages times source rfl hmessages).read
  refine ⟨⟨hpart, hend, happart, hcalls⟩, ⟨hgrown.trans ?_, hsearch "n" 1⟩, hone.trans ?_⟩
  · decide +kernel
  · rw [(serve_eq_play Daemon.newDaemon messages times source reportDisk).1]
    decide +kernel

def sideConfig : Config := { stateDir := "state", notesFile := "tasks.db-wal" }

/-- A store whose notes are kept where a database keeps its log. -/
def sideStore : Store := ⟨⟨"state/tasks.db-wal"⟩, ⟨0, true⟩, ⟨1, true⟩⟩

def closedDisk : Disk := sideStore.close (Store.openAt sideConfig .empty).2

def sideDisk : Disk := (Store.openAt sideConfig closedDisk).2

theorem log_shrinks_sideDisk :
    let calls := [milkText, taskText].map (ofText ⟨sideConfig, sideStore⟩ none)
    let run := play answer sideDisk calls
    let noted := (play answer sideDisk (calls.take 1)).2
    let log := sideStore.notes
    ((Store.openAt sideConfig closedDisk).1 = .ok sideStore ∧
        log.read? sideDisk = .ok (some []) ∧ run.1.map Response.isSuccess = [true, true]) ∧
      log.read? noted = .ok (some (NoteEntry.written [("milk", .epoch)])) ∧
      log.read? run.2 ≠ (log.read? sideDisk).map (grown (taken calls run.1)) ∧
      log.search "milk" 5 noted = .ok [⟨"tasks.db-wal", 3, "milk"⟩] := by
  decide +kernel

end Call

end Daybook
