import Daybook.Proofs.Disk.Rewriting
import Daybook.Proofs.Store.Entering
import Daybook.Proofs.Store.Session

namespace Daybook

open Disk

inductive Family where
  | notes
  | tasks
  | reminders
deriving DecidableEq, Repr

/-- The records of a family as a whole: what stands where the log of notes is kept, or a table. -/
def Family.Record : Family → Type
  | notes => Option Entry
  | tasks => TaskTable
  | reminders => ReminderTable

namespace Config

/-- The file in which the records of a family are kept. -/
def path (config : Config) : Family → String
  | .notes => config.notesPath
  | .tasks => config.tasksPath
  | .reminders => config.remindersPath

def place (config : Config) (family : Family) : Place := Path.place (config.path family)

end Config

structure Records where
  notes : Option Entry
  tasks : TaskTable
  reminders : ReminderTable

namespace Records

def get (records : Records) : (family : Family) → family.Record
  | .notes => records.notes
  | .tasks => records.tasks
  | .reminders => records.reminders

def set (records : Records) : (family : Family) → family.Record → Records
  | .notes, notes => { records with notes }
  | .tasks, tasks => { records with tasks }
  | .reminders, reminders => { records with reminders }

variable (records : Records) {family other : Family}

@[simp] theorem get_set_self (record : family.Record) :
    (records.set family record).get family = record := by
  cases family <;> rfl

theorem get_set_of_ne (hne : other ≠ family) (record : family.Record) :
    (records.set family record).get other = records.get other := by
  cases family <;> cases other <;> first | rfl | exact absurd rfl hne

@[simp] theorem set_get (family : Family) : records.set family (records.get family) = records := by
  cases family <;> rfl

@[simp] theorem set_set (record next : family.Record) :
    (records.set family record).set family next = records.set family next := by
  cases family <;> rfl

end Records

/-- Does what may fail, and says whether it has. -/
def Disk.attempt {ε : Type} (disk : Disk) (op : Disk → Except ε Disk) : Except ε Unit × Disk :=
  match op disk with
  | .ok after => (.ok (), after)
  | .error e => (.error e, disk)

namespace Store

/-- A store serves some records, kept as its configuration says. Of the places only that of the notes
and those of the files `reports` may differ from a disk `base`. -/
structure Serves (config : Config) (store : Store) (reports : List Place) (base disk : Disk)
    (records : Records) : Prop where
  taskPlain : Address.IsPlain config.tasksPath
  reminderPlain : Address.IsPlain config.remindersPath
  taskApart : Path.place store.notes.path ∉ family (Path.place config.tasksPath)
  reminderApart : Path.place store.notes.path ∉ family (Path.place config.remindersPath)
  reportApart : ∀ there ∈ reports, there ≠ Path.place store.notes.path ∧
    there ∉ family (Path.place config.tasksPath) ∧
    there ∉ family (Path.place config.remindersPath)
  taskPath : disk.Leads config.tasksPath (Path.place config.tasksPath)
  reminderPath : disk.Leads config.remindersPath (Path.place config.remindersPath)
  files : ∀ there, there ≠ Path.place store.notes.path → there ∉ reports →
    disk.find? there = base.find? there
  report : ∀ there ∈ reports, ∃ bytes, disk.find? there = some (.file bytes)
  notes : disk.find? (Path.place store.notes.path) = records.notes
  noPart : disk.HasNoPart (Path.place store.notes.path)
  tasks : ∃ db, disk.InUse store.tasks.number (Path.place config.tasksPath) db ∧
    db.tables.tasks = some records.tasks
  reminders : ∃ db, disk.InUse store.reminders.number (Path.place config.remindersPath) db ∧
    db.tables.reminders = some records.reminders

namespace Serves

variable {config : Config} {store : Store} {reports : List Place} {base disk disk' after : Disk}
  {records records' : Records} {db new : Database}

/-- What is done to the table of tasks is done to nothing else, also where the other table is in the
same database. -/
theorem onTasks (h : Serves config store reports base disk records)
    (hdb : disk.InUse store.tasks.number (Path.place config.tasksPath) db)
    (hnew : after.InUse store.tasks.number (Path.place config.tasksPath) new) {tasks : TaskTable}
    (htables : new.tables = taskSlot.set tasks db.tables)
    (hamends : disk.Amends after store.tasks.number) :
    Serves config store reports base after { records with tasks } := by
  refine { h with
    taskPath := h.taskPath.mono hamends.keepsDirectories
    reminderPath := h.reminderPath.mono hamends.keepsDirectories
    files := fun there hthere hreport =>
      (hamends.find there).trans (h.files there hthere hreport)
    report := fun there hthere => by
      rw [hamends.find there]
      exact h.report there hthere
    notes := (hamends.find _).trans h.notes
    noPart := hamends.hasNoPart h.noPart
    tasks := ⟨new, hnew, htables ▸ rfl⟩
    reminders := ?_ }
  obtain ⟨other, hother, htable⟩ := h.reminders
  by_cases hsame : store.reminders.number = store.tasks.number
  · rw [hsame] at hother ⊢
    obtain rfl : db = other := Option.some.inj (hdb.database.symm.trans hother.database)
    have hplace := Option.some.inj (hdb.home.symm.trans hother.home)
    exact ⟨new, hplace ▸ hnew, htables ▸ htable⟩
  · exact ⟨other, hother.frame hamends hsame, htable⟩

theorem onReminders (h : Serves config store reports base disk records)
    (hdb : disk.InUse store.reminders.number (Path.place config.remindersPath) db)
    (hnew : after.InUse store.reminders.number (Path.place config.remindersPath) new)
    {reminders : ReminderTable} (htables : new.tables = reminderSlot.set reminders db.tables)
    (hamends : disk.Amends after store.reminders.number) :
    Serves config store reports base after { records with reminders } := by
  refine { h with
    taskPath := h.taskPath.mono hamends.keepsDirectories
    reminderPath := h.reminderPath.mono hamends.keepsDirectories
    files := fun there hthere hreport =>
      (hamends.find there).trans (h.files there hthere hreport)
    report := fun there hthere => by
      rw [hamends.find there]
      exact h.report there hthere
    notes := (hamends.find _).trans h.notes
    noPart := hamends.hasNoPart h.noPart
    tasks := ?_
    reminders := ⟨new, hnew, htables ▸ rfl⟩ }
  obtain ⟨other, hother, htable⟩ := h.tasks
  by_cases hsame : store.tasks.number = store.reminders.number
  · rw [hsame] at hother ⊢
    obtain rfl : db = other := Option.some.inj (hdb.database.symm.trans hother.database)
    have hplace := Option.some.inj (hdb.home.symm.trans hother.home)
    exact ⟨new, hplace ▸ hnew, htables ▸ htable⟩
  · exact ⟨other, hother.frame hamends hsame, htable⟩

theorem setAt (h : Serves config store reports base disk records) {place : Place}
    (hdirectory : disk.find? place ≠ some .directory)
    (htask : place ∉ family (Path.place config.tasksPath))
    (hreminder : place ∉ family (Path.place config.remindersPath)) (entry : Option Entry) :
    disk.KeepsDirectories (disk.setAt place entry) ∧
      (∃ db, (disk.setAt place entry).InUse store.tasks.number (Path.place config.tasksPath) db ∧
        db.tables.tasks = some records.tasks) ∧
      ∃ db, (disk.setAt place entry).InUse store.reminders.number
          (Path.place config.remindersPath) db ∧
        db.tables.reminders = some records.reminders := by
  have hother : ∀ there, there ≠ place →
      (disk.setAt place entry).find? there = disk.find? there :=
    fun there hthere => find?_setAt_of_ne disk hthere entry
  have huse : ∀ {number home db}, place ∉ family home → disk.InUse number home db →
      (disk.setAt place entry).InUse number home db := by
    intro number home db hapart hdb
    refine ⟨hdb.toHasDatabase.frame ?_ ?_ ?_, hdb.users⟩
    · exact fun there hthere => hother there fun heq => hapart (heq ▸ hthere)
    · cases entry <;> rfl
    · cases entry <;> exact Nat.le_refl _
  obtain ⟨db, hdb, htable⟩ := h.tasks
  obtain ⟨db', hdb', htable'⟩ := h.reminders
  refine ⟨?_, ⟨db, huse htask hdb, htable⟩, db', huse hreminder hdb', htable'⟩
  intro there hthere
  rw [hother there fun heq => hdirectory (heq ▸ hthere), hthere]

theorem setNotes (h : Serves config store reports base disk records) {entry : Option Entry}
    (hdirectory : disk.find? (Path.place store.notes.path) ≠ some .directory)
    (hentry : ∀ number part intact bytes, entry ≠ some (.part number part intact bytes)) :
    Serves config store reports base (disk.setAt (Path.place store.notes.path) entry)
      { records with notes := entry } := by
  have hne : Path.place store.notes.path ≠ [] := by
    intro hroot
    rw [hroot] at hdirectory
    exact hdirectory rfl
  have hother : ∀ there, there ≠ Path.place store.notes.path →
      (disk.setAt (Path.place store.notes.path) entry).find? there = disk.find? there :=
    fun there hthere => find?_setAt_of_ne disk hthere entry
  have hself := find?_setAt_self disk hne entry
  obtain ⟨hkeeps, htasks, hreminders⟩ := h.setAt hdirectory h.taskApart h.reminderApart entry
  exact { h with
    taskPath := h.taskPath.mono hkeeps
    reminderPath := h.reminderPath.mono hkeeps
    files := fun there hthere hreport =>
      (hother there hthere).trans (h.files there hthere hreport)
    report := fun there hthere => by
      rw [hother there (h.reportApart there hthere).1]
      exact h.report there hthere
    notes := hself
    noPart := fun number part intact bytes hpart =>
      hentry number part intact bytes (hself.symm.trans hpart)
    tasks := htasks
    reminders := hreminders }

theorem setReport (h : Serves config store reports base disk records) {place : Place}
    (hplace : place ∈ reports) (bytes : List UInt8) :
    Serves config store reports base (disk.put place (.file bytes)) records := by
  obtain ⟨hnotes, htask, hreminder⟩ := h.reportApart place hplace
  obtain ⟨before, hbefore⟩ := h.report place hplace
  have hdirectory : disk.find? place ≠ some .directory := by
    rw [hbefore]
    exact nofun
  have hne : place ≠ [] := by
    rintro rfl
    exact hdirectory rfl
  have hother : ∀ there, there ≠ place →
      (disk.put place (.file bytes)).find? there = disk.find? there :=
    fun there hthere => find?_put_of_ne disk _ hthere
  obtain ⟨hkeeps, htasks, hreminders⟩ :=
    h.setAt hdirectory htask hreminder (some (.file bytes))
  exact { h with
    taskPath := h.taskPath.mono hkeeps
    reminderPath := h.reminderPath.mono hkeeps
    files := fun there hthere hreport =>
      (hother there fun heq => hreport (heq ▸ hplace)).trans (h.files there hthere hreport)
    report := by
      intro there hthere
      by_cases hself : there = place
      · subst hself
        exact ⟨bytes, find?_put_self disk there _ hne⟩
      · rw [hother there hself]
        exact h.report there hthere
    notes := (hother _ hnotes.symm).trans h.notes
    noPart := h.noPart.of_find (hother _ hnotes.symm)
    tasks := htasks
    reminders := hreminders }

/-- Two disks on which the same notes are served show the same everywhere but in reports. -/
theorem find?_eq (h : Serves config store reports base disk records)
    (h' : Serves config store reports base disk' records') (hnotes : records.notes = records'.notes)
    {there : Place} (hthere : there ∉ reports) : disk'.find? there = disk.find? there := by
  by_cases hself : there = Path.place store.notes.path
  · rw [hself, h.notes, h'.notes, hnotes]
  · rw [h.files there hself hthere, h'.files there hself hthere]

theorem notes_not_mem (h : Serves config store reports base disk records) :
    Path.place store.notes.path ∉ reports :=
  fun hmem => (h.reportApart _ hmem).1 rfl

theorem sameLayout (h : Serves config store reports base disk records)
    (h' : Serves config store reports base disk' records')
    (hnotes : records.notes = records'.notes) : disk.SameLayout disk' := by
  intro there
  by_cases hthere : there ∈ reports
  · obtain ⟨bytes, hfind⟩ := h.report there hthere
    obtain ⟨bytes', hfind'⟩ := h'.report there hthere
    exact .inr ⟨⟨_, hfind, nofun⟩, ⟨_, hfind', nofun⟩⟩
  · exact .inl (h.find?_eq h' hnotes hthere)

theorem read?_eq (h : Serves config store reports base disk records)
    (h' : Serves config store reports base disk' records')
    (hnotes : records.notes = records'.notes) :
    store.notes.read? disk = store.notes.read? disk' := by
  have hread := (h.sameLayout h' hnotes).read (h.find?_eq h' hnotes h.notes_not_mem) h.noPart
  rw [NoteLog.read?, NoteLog.read?, hread]

theorem journalFault?_eq (h : Serves config store reports base disk records) {place : Place}
    (hapart : Path.place store.notes.path ∉ family place)
    (hreports : ∀ there ∈ reports, there ∉ family place) :
    disk.journalFault? place = base.journalFault? place := by
  have hmem : journalPlace place ∈ family place := by simp [family]
  have hfind := h.files (journalPlace place) (fun heq => hapart (heq ▸ hmem))
    fun hreport => hreports _ hreport hmem
  rw [journalFault?, journalFault?, hfind]

theorem taskTable (h : Serves config store reports base disk records) :
    disk.taskTable store.tasks = .ok records.tasks := by
  obtain ⟨db, hdb, htable⟩ := h.tasks
  exact taskSlot.read_eq hdb.tables htable

theorem reminderTable (h : Serves config store reports base disk records) :
    disk.reminderTable store.reminders = .ok records.reminders := by
  obtain ⟨db, hdb, htable⟩ := h.reminders
  exact reminderSlot.read_eq hdb.tables htable

end Serves

/-- An operation reads and changes the records of one family alone: wherever these are the same it
yields the same and leaves the same in their place. -/
def ActsOn (config : Config) (store : Store) (reports : List Place) (base : Disk)
    (family : Family) {α : Type} (op : Disk → α × Disk) : Prop :=
  ∀ ⦃disk disk' : Disk⦄ ⦃records records' : Records⦄,
    Serves config store reports base disk records →
    Serves config store reports base disk' records' → records.get family = records'.get family →
    (op disk).1 = (op disk').1 ∧
      ∃ record, Serves config store reports base (op disk).2 (records.set family record) ∧
        Serves config store reports base (op disk').2 (records'.set family record)

namespace ActsOn

variable {config : Config} {store : Store} {reports : List Place} {base : Disk} {family : Family}
  {α β : Type} {op op' : Disk → α × Disk}

theorem of_eq (h : ActsOn config store reports base family op) (heq : ∀ disk, op' disk = op disk) :
    ActsOn config store reports base family op' := by
  obtain rfl : op' = op := funext heq
  exact h

theorem query {look : Disk → α}
    (hlook : ∀ ⦃disk disk' : Disk⦄ ⦃records records' : Records⦄,
      Serves config store reports base disk records →
      Serves config store reports base disk' records' →
      records.get family = records'.get family → look disk = look disk') :
    ActsOn config store reports base family fun disk => (look disk, disk) := by
  intro disk disk' records records' h h' hrecord
  refine ⟨hlook h h' hrecord, records.get family, ?_, ?_⟩
  · rw [Records.set_get]
    exact h
  · rw [hrecord, Records.set_get]
    exact h'

theorem const (a : α) : ActsOn config store reports base family fun disk => (a, disk) :=
  query fun _ _ _ _ _ _ _ => rfl

theorem bind (h : ActsOn config store reports base family op) {next : α → Disk → β × Disk}
    (hnext : ∀ a, ActsOn config store reports base family (next a)) :
    ActsOn config store reports base family fun disk => next (op disk).1 (op disk).2 := by
  intro disk disk' records records' hdisk hdisk' hrecord
  obtain ⟨hanswer, record, hmid, hmid'⟩ := h hdisk hdisk' hrecord
  obtain ⟨hlast, last, hafter, hafter'⟩ := hnext (op disk).1 hmid hmid' (by simp)
  rw [Records.set_set] at hafter hafter'
  dsimp only
  rw [← hanswer]
  exact ⟨hlast, last, hafter, hafter'⟩

theorem map (h : ActsOn config store reports base family op) (f : α → β) :
    ActsOn config store reports base family fun disk => (f (op disk).1, (op disk).2) :=
  h.bind fun a => const (f a)

/-- An operation that yields and leaves what a function of the records of a family says. -/
theorem of_spec (g : family.Record → α × family.Record)
    (hop : ∀ ⦃disk : Disk⦄ ⦃records : Records⦄, Serves config store reports base disk records →
      (op disk).1 = (g (records.get family)).1 ∧
        Serves config store reports base (op disk).2
          (records.set family (g (records.get family)).2)) :
    ActsOn config store reports base family op := by
  intro disk disk' records records' h h' hrecord
  obtain ⟨hanswer, hafter⟩ := hop h
  obtain ⟨hanswer', hafter'⟩ := hop h'
  rw [← hrecord] at hanswer' hafter'
  exact ⟨hanswer.trans hanswer'.symm, _, hafter, hafter'⟩

theorem queryTasks (f : TaskTable → Except Error α) :
    ActsOn config store reports base .tasks fun disk => (disk.queryTasks store.tasks f, disk) := by
  refine of_spec (fun tasks => (f tasks, tasks)) ?_
  intro disk records h
  refine ⟨?_, h⟩
  dsimp only
  rw [Disk.queryTasks, h.taskTable]
  rfl

theorem queryReminders (f : ReminderTable → Except Error α) :
    ActsOn config store reports base .reminders fun disk =>
      (disk.queryReminders store.reminders f, disk) := by
  refine of_spec (fun reminders => (f reminders, reminders)) ?_
  intro disk records h
  refine ⟨?_, h⟩
  dsimp only
  rw [Disk.queryReminders, h.reminderTable]
  rfl

theorem changeTasks (f : TaskTable → Except Error (α × TaskTable)) :
    ActsOn config store reports base .tasks fun disk => disk.changeTasks store.tasks f := by
  refine of_spec (changed store.tasks f) ?_
  intro disk records h
  obtain ⟨db, hdb, htable⟩ := h.tasks
  obtain ⟨new, hanswer, hnew, htables, hamends⟩ := hdb.changeTasks htable f
  exact ⟨hanswer, h.onTasks hdb hnew htables hamends⟩

theorem changeReminders (f : ReminderTable → Except Error (α × ReminderTable)) :
    ActsOn config store reports base .reminders fun disk =>
      disk.changeReminders store.reminders f := by
  refine of_spec (changed store.reminders f) ?_
  intro disk records h
  obtain ⟨db, hdb, htable⟩ := h.reminders
  obtain ⟨new, hanswer, hnew, htables, hamends⟩ := hdb.changeReminders htable f
  exact ⟨hanswer, h.onReminders hdb hnew htables hamends⟩

theorem editTasks (f : TaskTable → Except DatabaseFault (Nat × TaskTable)) :
    ActsOn config store reports base .tasks fun disk => disk.editTasks config.tasksPath f := by
  refine of_spec (edited (base.journalFault? (Path.place config.tasksPath)) f) ?_
  intro disk records h
  obtain ⟨db, hdb, htable⟩ := h.tasks
  obtain ⟨-, hbody⟩ := h.taskPath disk (KeepsDirectories.refl disk)
  obtain ⟨new, hanswer, hnew, htables, hamends⟩ :=
    hdb.edit h.taskPlain hbody taskSlot htable "tasks" f
  have hreports : ∀ there ∈ reports, there ∉ family (Path.place config.tasksPath) :=
    fun there hthere => (h.reportApart there hthere).2.1
  rw [h.journalFault?_eq h.taskApart hreports] at hanswer htables
  exact ⟨hanswer, h.onTasks hdb hnew htables hamends⟩

theorem editReminders (f : ReminderTable → Except DatabaseFault (Nat × ReminderTable)) :
    ActsOn config store reports base .reminders fun disk =>
      disk.editReminders config.remindersPath f := by
  refine of_spec (edited (base.journalFault? (Path.place config.remindersPath)) f) ?_
  intro disk records h
  obtain ⟨db, hdb, htable⟩ := h.reminders
  obtain ⟨-, hbody⟩ := h.reminderPath disk (KeepsDirectories.refl disk)
  obtain ⟨new, hanswer, hnew, htables, hamends⟩ :=
    hdb.edit h.reminderPlain hbody reminderSlot htable "reminders" f
  have hreports : ∀ there ∈ reports, there ∉ family (Path.place config.remindersPath) :=
    fun there hthere => (h.reportApart there hthere).2.2
  rw [h.journalFault?_eq h.reminderApart hreports] at hanswer htables
  exact ⟨hanswer, h.onReminders hdb hnew htables hamends⟩

theorem attempt {ε : Type} {op : Disk → Except ε Disk}
    (hop : Rewrites (Path.place store.notes.path) op) :
    ActsOn config store reports base .notes fun disk => disk.attempt op := by
  intro disk disk' records records' h h' hrecord
  have hnotes : records.notes = records'.notes := hrecord
  have hsame := h.find?_eq h' hnotes h.notes_not_mem
  dsimp only [Disk.attempt]
  rcases hop (h.sameLayout h' hnotes) hsame h.noPart with
    ⟨e, hfail, hfail'⟩ | ⟨entry, hdone, hdone', hdirectory, hentry⟩
  · rw [hfail, hfail']
    exact const _ h h' hrecord
  · have hdirectory' := hdirectory
    rw [← hsame] at hdirectory'
    rw [hdone, hdone']
    exact ⟨rfl, entry, h.setNotes hdirectory hentry, h'.setNotes hdirectory' hentry⟩

theorem appendNote (content : String) (now : Instant) :
    ActsOn config store reports base .notes fun disk => store.appendNote content now disk := by
  let bytes := Utf8.encode (NoteEntry.format content.toList now)
  refine ((attempt (rewrites_append store.notes.path bytes)).map (Except.mapError Error.file)).of_eq
    ?_
  intro disk
  unfold Store.appendNote NoteLog.append Disk.attempt
  dsimp only
  cases disk.append store.notes.path bytes <;> rfl

theorem searchNotes (text : String) (limit : Nat) :
    ActsOn config store reports base .notes fun disk =>
      (store.searchNotes text limit disk, disk) := by
  refine query ?_
  intro disk disk' records records' h h' hrecord
  unfold Store.searchNotes NoteLog.search
  rw [h.read?_eq h' hrecord]

theorem readNotes :
    ActsOn config store reports base .notes fun disk => (store.readNotes disk, disk) := by
  refine query ?_
  intro disk disk' records records' h h' hrecord
  unfold Store.readNotes NoteLog.entries
  rw [h.read?_eq h' hrecord]

theorem createTask (task : NewTask) (now : Instant) :
    ActsOn config store reports base .tasks fun disk => store.createTask task now disk := by
  unfold Store.createTask
  cases task.validate with
  | error e => exact const _
  | ok => exact changeTasks _

theorem completeTask (id : Int) (now : Instant) :
    ActsOn config store reports base .tasks fun disk => store.completeTask id now disk :=
  changeTasks fun table => (table.complete id now).map fun table => ((), table)

theorem listPendingTasks :
    ActsOn config store reports base .tasks fun disk => (store.listPendingTasks disk, disk) :=
  queryTasks TaskTable.listPending

theorem createReminder (title : String) (minutes : Int) (now : Instant) :
    ActsOn config store reports base .reminders fun disk =>
      store.createReminder title minutes now disk := by
  unfold Store.createReminder
  cases Reminder.triggerTime? now minutes with
  | error e => exact const _
  | ok trigger =>
      dsimp only
      split
      · exact const _
      · let next : Except Error Int → Disk → Except Error Reminder × Disk
          | .error e, disk => (.error e, disk)
          | .ok id, disk => (disk.queryReminders store.reminders fun table => table.get id, disk)
        have hnext : ∀ result, ActsOn config store reports base .reminders (next result) := by
          intro result
          cases result with
          | error e => exact const _
          | ok id => exact queryReminders _
        refine ((changeReminders fun table => table.create title trigger now).bind hnext).of_eq ?_
        intro disk
        obtain ⟨_ | _, _⟩ := disk.changeReminders store.reminders fun table =>
          table.create title trigger now <;> rfl

theorem cancelReminder (id : Int) :
    ActsOn config store reports base .reminders fun disk => store.cancelReminder id disk :=
  changeReminders fun table => (table.cancel id).map fun table => ((), table)

theorem listActiveReminders :
    ActsOn config store reports base .reminders fun disk =>
      (store.listActiveReminders disk, disk) :=
  queryReminders ReminderTable.listActive

theorem performTask (deed : TaskDeed) :
    ActsOn config store reports base .tasks fun disk => store.performTask disk deed := by
  cases deed with
  | create task now => exact (createTask task now).map _
  | get id => exact (queryTasks fun table => table.get id).map _
  | complete id now => exact (completeTask id now).map _
  | listPending => exact listPendingTasks.map _

theorem performReminder (deed : ReminderDeed) :
    ActsOn config store reports base .reminders fun disk => store.performReminder disk deed := by
  cases deed with
  | create title minutes now => exact (createReminder title minutes now).map _
  | get id => exact (queryReminders fun table => table.get id).map _
  | cancel id => exact (cancelReminder id).map _
  | listActive => exact listActiveReminders.map _

end ActsOn

/-- A store is opened where its databases may have been before. -/
structure IsEntered (config : Config) (disk : Disk) (store : Store) (after : Disk) : Prop where
  working : disk.find? workingDirectory = some .directory
  notes : disk.HasNoPart (config.place .notes)
  tasks : disk.IsSound (config.place .tasks)
  reminders : disk.IsSound (config.place .reminders)
  opened : Store.openAt config disk = (.ok store, after)

theorem IsEntered.serves {config : Config} {disk after : Disk} {store : Store}
    (h : IsEntered config disk store after) (hfiles : config.HasPlainFiles)
    (htaskApart : config.place .notes ∉ Disk.family (config.place .tasks))
    (hreminderApart : config.place .notes ∉ Disk.family (config.place .reminders))
    {reports : List Place}
    (hreports : ∀ there ∈ reports, there ≠ config.place .notes ∧
      there ∉ Disk.family (config.place .tasks) ∧ there ∉ Disk.family (config.place .reminders) ∧
      ∃ bytes, after.find? there = some (.file bytes)) :
    ∃ records, Serves config store reports after after records := by
  obtain ⟨first, mid, hfirst, -, htasks, hreminders, hnotes⟩ := openAt_eq_ok h.opened
  have hwork := hfirst.keepsDirectories _ h.working
  obtain ⟨n, tables, hawaits⟩ := (h.tasks.gain hfirst).exists_awaits
  obtain ⟨start, new, tasks, hgains, hleads, rfl, hnew, htable, htouches⟩ :=
    hawaits.openTasks hfiles.taskPlain hwork htasks
  have hwork' := htouches.directories _ (hgains.keepsDirectories _ hwork)
  have hplaces : Path.place config.tasksPath = Path.place config.remindersPath ∨
      (mid.IsSound (Path.place config.remindersPath) ∧
        ∀ there ∈ Disk.family (Path.place config.tasksPath),
          there ∉ Disk.family (Path.place config.remindersPath)) := by
    refine hfiles.clear.imp_right fun hclear => ⟨?_, hclear⟩
    exact isSound_of_openTasks hfiles hwork (h.tasks.gain hfirst) (h.reminders.gain hfirst) htasks
  obtain ⟨start', db, new', reminders, hgains', hleads', htouches', hdb, htable', hnew',
    htable''⟩ := hnew.openReminders htable hfiles.reminderPlain hwork' hplaces hreminders
  have hkeeps := hgains'.keepsDirectories.trans htouches'.directories
  have hpath : Path.place store.notes.path = config.place .notes := by
    rw [hnotes]
    rfl
  refine ⟨⟨after.find? (config.place .notes), tasks, reminders⟩, ?_⟩
  exact {
    taskPlain := hfiles.taskPlain
    reminderPlain := hfiles.reminderPlain
    taskApart := hpath ▸ htaskApart
    reminderApart := hpath ▸ hreminderApart
    reportApart := fun there hthere =>
      ⟨hpath ▸ (hreports there hthere).1, (hreports there hthere).2.1,
        (hreports there hthere).2.2.1⟩
    taskPath := hleads.mono (htouches.directories.trans hkeeps)
    reminderPath := hleads'.mono htouches'.directories
    files := fun _ _ _ => rfl
    report := fun there hthere => (hreports there hthere).2.2.2
    notes := by rw [hpath]
    noPart := by
      rw [hpath]
      exact ((((h.notes.gain hfirst).gain hgains).touch htouches htaskApart).gain hgains').touch
        htouches' hreminderApart
    tasks := ⟨db, hdb, htable'⟩
    reminders := ⟨new', hnew', htable''⟩ }

end Store

end Daybook
