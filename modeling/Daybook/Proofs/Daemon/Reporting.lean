import Daybook.Proofs.Daemon.Families
import Daybook.Proofs.Daemon.Serving

namespace Daybook

namespace Service

/-- Two services that differ in their disks alone, and these are related. -/
def Alike (R : Disk → Disk → Prop) (s s' : Service) : Prop :=
  { s with disk := s'.disk } = s' ∧ R s.disk s'.disk

section

variable (limit : Nat) {answer answer' : Nat → Frame → Disk → Response × Disk}
  {R : Disk → Disk → Prop} {done done' : Service}
  (hanswer : ∀ n frame {disk disk' : Disk}, R disk disk' →
    (answer n frame disk).1 = (answer' n frame disk').1 ∧
      R (answer n frame disk).2 (answer' n frame disk').2)
include hanswer

theorem Alike.counted (h : Alike R done done') (line : Line) :
    (step limit answer done.disk (line, done.requests)).1 =
        (step limit answer' done'.disk (line, done'.requests)).1 ∧
      Alike R (done.counted limit answer line) (done'.counted limit answer' line) := by
  obtain ⟨hsame, hdisk⟩ := h
  rw [← hsame]
  obtain ⟨hresponse, hnext⟩ := hanswer done.requests (line.frame limit) hdisk
  have hresponse : (step limit answer done.disk (line, done.requests)).1 =
      (step limit answer' done'.disk (line, done.requests)).1 := hresponse
  refine ⟨hresponse, ?_, hnext⟩
  dsimp only [Service.counted]
  rw [hresponse]

theorem Alike.answered (h : Alike R done done') (line : Line) :
    Alike R (done.answered limit answer line) (done'.answered limit answer' line) := by
  obtain ⟨hresponse, hsame, hdisk⟩ := h.counted limit hanswer line
  refine ⟨?_, hdisk⟩
  unfold Service.answered
  rw [← hresponse, ← hsame]
  rfl

theorem Alike.serveFrom (h : Alike R done done') (room : Option Nat) (source : Source) :
    Alike R (serveFrom limit answer room done source)
      (serveFrom limit answer' room done' source) := by
  induction hsize : source.size using Nat.strongRecOn generalizing source done done' room with
  | ind size ih =>
      subst hsize
      rcases Frame.next?_cases limit source with ⟨hnone, -⟩ | ⟨line, later, hsome, -, -⟩
      · rw [serveFrom_of_none answer hnone, serveFrom_of_none answer' hnone]
        exact h
      · have hlater : later.size < source.size := Frame.size_next?_lt hsome
        rw [serveFrom_of_some answer hsome, serveFrom_of_some answer' hsome]
        match room with
        | none => exact ih _ hlater (h.answered limit hanswer line) none later rfl
        | some 0 =>
            obtain ⟨-, hsame, hdisk⟩ := h.counted limit hanswer line
            refine ⟨?_, hdisk⟩
            dsimp only
            rw [← hsame]
        | some (room + 1) => exact ih _ hlater (h.answered limit hanswer line) (some room) later rfl

theorem alike_serve {disk disk' : Disk} (h : R disk disk') (room : Option Nat) (source : Source) :
    Alike R (serve limit answer room source disk) (serve limit answer' room source disk') := by
  have hstart : Alike R (start disk) (start disk') := ⟨rfl, h⟩
  obtain ⟨hsame, hdisk⟩ := hstart.serveFrom limit hanswer room source
  rw [serve_eq_reversed, serve_eq_reversed, ← hsame]
  exact ⟨rfl, hdisk⟩

end

end Service

/-- Two disks have the same records and the same files, but for one file. -/
structure Store.SameBut (store : Store) (place : Place) (disk disk' : Disk) : Prop where
  find : ∀ there, there ≠ place → disk'.find? there = disk.find? there
  records : ∀ family, store.HasSame disk disk' family

namespace Daemon

open Store

variable {daemon : Daemon} {log : MessageLog} {base start disk disk' : Disk} {now : Instant}

/-- Two disks on which a daemon that reports to a log is served with the same records. -/
def Twins (daemon : Daemon) (log : MessageLog) (base disk disk' : Disk) : Prop :=
  ∃ records, Serves daemon.config daemon.store (reports (some log)) base disk records ∧
    Serves daemon.config daemon.store (reports (some log)) base disk' records

theorem Twins.sameBut (h : daemon.Twins log base disk disk') :
    daemon.store.SameBut (Path.place log.path) disk disk' := by
  obtain ⟨records, hserves, hserves'⟩ := h
  refine ⟨fun there hthere => ?_, fun family => ?_⟩
  · exact hserves.find?_eq hserves' rfl fun hmem => hthere (List.mem_singleton.mp hmem)
  · have hagree : daemon.Agree (some log) base family ⟨disk, .epoch⟩ ⟨disk', .epoch⟩ :=
      ⟨rfl, records, records, hserves, hserves', rfl⟩
    exact hagree.hasSame

theorem Twins.add (h : daemon.Twins log base disk disk') (now : Instant)
    (messages : List Message) : daemon.Twins log base (log.add now messages disk) disk' := by
  obtain ⟨records, hserves, hserves'⟩ := h
  exact ⟨records, serves_add (mem_reports log rfl) now messages hserves, hserves'⟩

theorem exists_concerns (daemon : Daemon) (incident : Incident) :
    ∃ family, daemon.concerns family incident = true := by
  unfold concerns
  cases daemon.family? incident with
  | none => exact ⟨.notes, rfl⟩
  | some family => exact ⟨family, beq_self_eq_true family⟩

theorem Twins.act_none (h : daemon.Twins log base disk disk') (now : Instant)
    (incident : Incident) :
    (daemon.act none now incident disk).1 = (daemon.act none now incident disk').1 ∧
      daemon.Twins log base (daemon.act none now incident disk).2
        (daemon.act none now incident disk').2 := by
  obtain ⟨family, hconcerns⟩ := daemon.exists_concerns incident
  obtain ⟨records, hserves, hserves'⟩ := h
  have hquiet : ∀ messages ∈ (none : Option MessageLog),
      Path.place messages.path ∈ reports (some log) := nofun
  obtain ⟨hanswer, record, hafter, hafter'⟩ :=
    actsOn_act hquiet hconcerns now hserves hserves' rfl
  exact ⟨hanswer, _, hafter, hafter'⟩

theorem Twins.answer (h : daemon.Twins log base disk disk') (now : Instant) (frame : Frame) :
    (log.answer daemon now frame disk).1 = (daemon.answer now frame disk').1 ∧
      daemon.Twins log base (log.answer daemon now frame disk).2
        (daemon.answer now frame disk').2 := by
  obtain ⟨hresponse, hafter⟩ :=
    (h.add now (daemon.reportBefore frame)).act_none now (.request frame)
  exact ⟨Upshot.response.inj hresponse, hafter.add now _⟩

theorem Twins.act (h : daemon.Twins log base disk disk') (now : Instant) (incident : Incident) :
    (daemon.act (some log) now incident disk).1 = (daemon.act none now incident disk').1 ∧
      daemon.Twins log base (daemon.act (some log) now incident disk).2
        (daemon.act none now incident disk').2 := by
  have hquiet := h.act_none now incident
  cases incident with
  | request frame =>
      obtain ⟨hresponse, hafter⟩ := h.answer now frame
      exact ⟨congrArg Upshot.response hresponse, hafter⟩
  | note _ | task _ | reminder _ | editNotes _ | editTasks _ | editReminders _ | clock _ =>
      exact hquiet

section

variable
  (hplain : Address.IsPlain daemon.config.tasksPath ∧
    Address.IsPlain daemon.config.remindersPath)
  (hdatabases : daemon.config.place .tasks = daemon.config.place .reminders ∨
    daemon.config.place .tasks ∉ Disk.family (daemon.config.place .reminders) ∧
      daemon.config.place .reminders ∉ Disk.family (daemon.config.place .tasks))
  (hnotes : daemon.config.place .notes ∉ Disk.family (daemon.config.place .tasks) ∧
    daemon.config.place .notes ∉ Disk.family (daemon.config.place .reminders))
  (hlog : log.StandsApart daemon.config disk)
  (hentered : IsEntered daemon.config start daemon.store disk)
include hplain hdatabases hnotes hlog hentered

theorem twins_self : daemon.Twins log disk disk disk := by
  have hapart : ∀ messages ∈ some log, messages.StandsApart daemon.config disk := by
    rintro _ ⟨⟩
    exact hlog
  obtain ⟨records, hserves⟩ := exists_serves hplain hdatabases hnotes hapart hentered
  exact ⟨records, hserves, hserves⟩

theorem answer_reported (now : Instant) (frame : Frame) :
    (log.answer daemon now frame disk).1 = (daemon.answer now frame disk).1 ∧
      daemon.store.SameBut (Path.place log.path) (log.answer daemon now frame disk).2
        (daemon.answer now frame disk).2 := by
  obtain ⟨hresponse, hafter⟩ :=
    (twins_self hplain hdatabases hnotes hlog hentered).answer now frame
  exact ⟨hresponse, hafter.sameBut⟩

/-- A daemon that reports to a file of its own goes on as one that does not report, whatever happens,
and leaves the same files but for that one. -/
theorem play_reported (now : Instant) (incidents : List Incident) :
    let reported := play (daemon.step (some log)) ⟨disk, now⟩ incidents
    let silent := play (daemon.step none) ⟨disk, now⟩ incidents
    reported.1 = silent.1 ∧ reported.2.now = silent.2.now ∧
      daemon.store.SameBut (Path.place log.path) reported.2.disk silent.2.disk := by
  intro reported silent
  let R : Scene → Scene → Prop := fun scene scene' =>
    scene.now = scene'.now ∧ daemon.Twins log disk scene.disk scene'.disk
  have hstart : R ⟨disk, now⟩ ⟨disk, now⟩ :=
    ⟨rfl, twins_self hplain hdatabases hnotes hlog hentered⟩
  have hplay : reported.1.map id = silent.1 ∧ R reported.2 silent.2 := by
    refine play_of_step ?_ hstart fun _ hmem => hmem
    rintro ⟨_, now⟩ ⟨_, _⟩ incident - ⟨rfl, h⟩
    obtain ⟨hupshot, hafter⟩ := h.act now incident
    exact ⟨hupshot, rfl, hafter⟩
  obtain ⟨hupshots, htime, hlast⟩ := hplay
  rw [List.map_id] at hupshots
  exact ⟨hupshots, htime, hlast.sameBut⟩

/-- So it is when an input is served: the same is delivered and counted. -/
theorem serve_reported (times : Nat → Instant) (room : Option Nat) (source : Source) :
    let reported := daemon.serve (some log) times room source disk
    let silent := daemon.serve none times room source disk
    { reported with disk := silent.disk } = silent ∧
      daemon.store.SameBut (Path.place log.path) reported.disk silent.disk := by
  intro reported silent
  have hanswer : ∀ n frame {one other : Disk}, daemon.Twins log disk one other →
      (daemon.respond (some log) (times n) frame one).1 =
          (daemon.respond none (times n) frame other).1 ∧
        daemon.Twins log disk (daemon.respond (some log) (times n) frame one).2
          (daemon.respond none (times n) frame other).2 :=
    fun n frame _ _ h => h.answer (times n) frame
  have hstart := twins_self hplain hdatabases hnotes hlog hentered
  obtain ⟨hsame, hlast⟩ := Service.alike_serve _ hanswer hstart room source
  exact ⟨hsame, hlast.sameBut⟩

end

end Daemon

end Daybook
