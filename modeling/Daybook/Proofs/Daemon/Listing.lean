import Daybook.Proofs.Daemon.Failure
import Daybook.Proofs.Daemon.Families
import Daybook.Proofs.Store.Listing

namespace Daybook

theorem FileDeed.databases_apply {path : String} {deed : FileDeed} {disk after : Disk}
    (h : deed.apply path disk = .ok after) : after.databases = disk.databases := by
  cases deed with
  | write bytes => exact Disk.databases_write h
  | append bytes => exact Disk.databases_append h
  | remove => exact Disk.databases_remove h
  | makeDirectory => exact (Disk.makeDirectory_eq_ok h).1.databases

/-- Another program leaves the identifiers of the rows in order, and does not go beyond those that have
been given out. -/
def Incident.KeepsKeys : Incident → Prop
  | .editTasks f => ∀ table n after, table.IsKeyed → f table = .ok (n, after) → after.IsKeyed
  | .editReminders f => ∀ table n after, table.IsKeyed → f table = .ok (n, after) → after.IsKeyed
  | _ => True

namespace Incident

theorem keepsKeys_setTask (id : Int) (column : TaskColumn) (value : Option String) :
    (editTasks fun table => table.setColumn id column value).KeepsKeys :=
  fun _ _ _ h hset => h.setColumn hset

theorem keepsKeys_deleteTask (id : Int) :
    (editTasks fun table => .ok (table.deleteRow id)).KeepsKeys := by
  intro table n after h hdelete
  obtain rfl : (table.deleteRow id).2 = after := congrArg Prod.snd (Except.ok.inj hdelete)
  exact h.deleteRow id

theorem keepsKeys_setReminder (id : Int) (column : ReminderColumn) (value : Option String) :
    (editReminders fun table => table.setColumn id column value).KeepsKeys :=
  fun _ _ _ h hset => h.setColumn hset

theorem keepsKeys_deleteReminder (id : Int) :
    (editReminders fun table => .ok (table.deleteRow id)).KeepsKeys := by
  intro table n after h hdelete
  obtain rfl : (table.deleteRow id).2 = after := congrArg Prod.snd (Except.ok.inj hdelete)
  exact h.deleteRow id

end Incident

namespace Disk

variable {disk : Disk}

theorem IsKeyed.performTask (h : disk.IsKeyed) (store : Store) (deed : TaskDeed) :
    (store.performTask disk deed).2.IsKeyed := by
  cases deed with
  | create task now => exact All.createTask h isLasting_isKeyed store task now
  | get id => exact h
  | complete id now => exact All.completeTask h isLasting_isKeyed store id now
  | listPending => exact h

theorem IsKeyed.performReminder (h : disk.IsKeyed) (store : Store) (deed : ReminderDeed) :
    (store.performReminder disk deed).2.IsKeyed := by
  cases deed with
  | create title minutes now => exact All.createReminder h isLasting_isKeyed store title minutes now
  | get id => exact h
  | cancel id => exact All.cancelReminder h isLasting_isKeyed store id
  | listActive => exact h

theorem IsKeyed.performNote (h : disk.IsKeyed) (store : Store) (deed : NoteDeed) :
    (store.performNote disk deed).2.IsKeyed := by
  cases deed with
  | append content now => exact All.appendNote h store content now
  | search text limit => exact h
  | read => exact h

theorem IsKeyed.add (h : disk.IsKeyed) (log : MessageLog) (now : Instant)
    (messages : List Message) : (log.add now messages disk).IsKeyed := by
  rcases Daemon.add_cases log now messages disk with hsame | ⟨bytes, happend⟩
  · rw [hsame]
    exact h
  · exact All.of_databases h (databases_append happend)

theorem IsKeyed.respond (h : disk.IsKeyed) (daemon : Daemon) (log : Option MessageLog)
    (now : Instant) (frame : Frame) : (daemon.respond log now frame disk).2.IsKeyed := by
  cases log with
  | none => exact All.answer h isLasting_isKeyed daemon now frame
  | some log =>
      have hanswer := All.answer (h.add log now (daemon.reportBefore frame)) isLasting_isKeyed
        daemon now frame
      exact IsKeyed.add hanswer log now _

theorem IsKeyed.act (h : disk.IsKeyed) (daemon : Daemon) (log : Option MessageLog) (now : Instant)
    {incident : Incident} (hincident : incident.KeepsKeys) :
    (daemon.act log now incident disk).2.IsKeyed := by
  cases incident with
  | request frame => exact h.respond daemon log now frame
  | note deed => exact h.performNote daemon.store (deed now)
  | task deed => exact h.performTask daemon.store (deed now)
  | reminder deed => exact h.performReminder daemon.store (deed now)
  | editNotes deed =>
      dsimp only [Daemon.act, Upshot.of, Disk.attempt]
      cases happly : deed.apply daemon.store.notes.path disk with
      | error fault => exact h
      | ok after => exact All.of_databases h (FileDeed.databases_apply happly)
  | editTasks f =>
      dsimp only [Daemon.act, Upshot.of]
      exact All.editTasks h _ hincident
  | editReminders f =>
      dsimp only [Daemon.act, Upshot.of]
      exact All.editReminders h _ hincident
  | clock seconds => exact h

end Disk

/-- A disk on which any number of stores have been at work, and other programs that keep the identifiers
of the rows. There are no databases at first. -/
inductive Worked : Disk → Prop
  | fresh {disk : Disk} (hnew : disk.databases = []) : Worked disk
  | opened {disk : Disk} (h : Worked disk) (config : Config) : Worked (Store.openAt config disk).2
  | closed {disk : Disk} (h : Worked disk) (store : Store) : Worked (store.close disk)
  | acted {disk : Disk} (h : Worked disk) (daemon : Daemon) (log : Option MessageLog)
      (now : Instant) {incident : Incident} (hkeeps : incident.KeepsKeys) :
      Worked (daemon.act log now incident disk).2

namespace Worked

theorem isKeyed {disk : Disk} (h : Worked disk) : disk.IsKeyed := by
  induction h with
  | fresh hnew => exact Disk.All.of_databases_nil hnew
  | opened _ config ih => exact Disk.All.openAt ih isLasting_isKeyed config
  | closed _ store ih => exact Disk.All.close ih store
  | acted _ daemon log now hkeeps ih => exact ih.act daemon log now hkeeps

theorem play {disk : Disk} (h : Worked disk) (daemon : Daemon) (log : Option MessageLog)
    (now : Instant) {incidents : List Incident}
    (hkeeps : ∀ incident ∈ incidents, incident.KeepsKeys) :
    Worked (Daybook.play (daemon.step log) ⟨disk, now⟩ incidents).2.disk := by
  induction incidents generalizing disk now with
  | nil => exact h
  | cons incident incidents ih =>
      obtain ⟨hfirst, hlater⟩ := List.forall_mem_cons.mp hkeeps
      exact ih (h.acted daemon log now hfirst) (incident.time now) hlater

/-- What is listed agrees with single reads. The pending tasks are listed by identifier, the active
reminders by the text of their trigger time and then by identifier; a fault is that of the first row
among them that cannot be read. Rows with another status do not matter, whatever they hold. -/
theorem listings_agree {disk disk' : Disk} (h : Worked disk) (h' : Worked disk')
    (store store' : Store) :
    (∀ table, disk.taskTable store.tasks = .ok table →
      TaskTable.listing.Agrees table.rows (store.getTask · disk) (store.listPendingTasks disk) ∧
        (∀ tasks, store.listPendingTasks disk = .ok tasks → tasks.Pairwise (·.id < ·.id)) ∧
        ∀ table', disk'.taskTable store'.tasks = .ok table' →
          TaskTable.listing.Same table.rows table'.rows →
          store'.listPendingTasks disk' = store.listPendingTasks disk) ∧
      ∀ table, disk.reminderTable store.reminders = .ok table →
        ReminderTable.listing.Agrees table.rows (store.getReminder · disk)
            (store.listActiveReminders disk) ∧
          ∀ table', disk'.reminderTable store'.reminders = .ok table' →
            ReminderTable.listing.Same table.rows table'.rows →
            store'.listActiveReminders disk' = store.listActiveReminders disk := by
  constructor
  · intro table htable
    have hkeyed := h.isKeyed.of_taskTable htable
    have hlist : store.listPendingTasks disk = table.listPending := by
      rw [Store.listPendingTasks, Disk.queryTasks, htable]
    have hget : (store.getTask · disk) = table.get := by
      funext id
      rw [Store.getTask, Disk.queryTasks, htable]
    rw [hlist, hget]
    refine ⟨hkeyed.agrees, fun tasks => hkeyed.pairwise_listPending, ?_⟩
    intro table' htable' hsame
    rw [Store.listPendingTasks, Disk.queryTasks, htable']
    exact hkeyed.listPending_eq (h'.isKeyed.of_taskTable htable') hsame
  · intro table htable
    have hkeyed := h.isKeyed.of_reminderTable htable
    have hlist : store.listActiveReminders disk = table.listActive := by
      rw [Store.listActiveReminders, Disk.queryReminders, htable]
    have hget : (store.getReminder · disk) = table.get := by
      funext id
      rw [Store.getReminder, Disk.queryReminders, htable]
    rw [hlist, hget]
    refine ⟨hkeyed.agrees, ?_⟩
    intro table' htable' hsame
    rw [Store.listActiveReminders, Disk.queryReminders, htable']
    exact hkeyed.listActive_eq (h'.isKeyed.of_reminderTable htable') hsame

end Worked

theorem worked_newDisk : Worked newDisk := .opened (.fresh rfl) newConfig

/-- A task that is completed and can no longer be read, one with a priority that there is not, and one
that is well; of three reminders one is taken away, and one is put off. -/
def spoilings : List Incident :=
  [.task fun now => .create ⟨"Buy milk", none, .medium⟩ now,
    .task fun now => .create ⟨"Call Ann", none, .high⟩ now,
    .task fun now => .create ⟨"Water plants", none, .low⟩ now,
    .task fun now => .complete 1 now,
    .reminder fun now => .create "Tea" 5 now,
    .reminder fun now => .create "Rest" 3 now,
    .reminder fun now => .create "Walk" 720 now,
    .editTasks fun table => table.setColumn 1 .createdAt (some "yesterday"),
    .editTasks fun table => table.setColumn 2 .priority (some "urgent"),
    .editReminders fun table => table.setColumn 2 .triggerTime (some "1970-01-02T00:00:00Z"),
    .editReminders fun table => .ok (table.deleteRow 1)]

def spoiledDisk : Disk := (play (Daemon.newDaemon.step none) ⟨newDisk, .epoch⟩ spoilings).2.disk

/-- The completed task is taken away. -/
def clearedDisk : Disk :=
  (Daemon.newDaemon.act none .epoch (.editTasks fun table => .ok (table.deleteRow 1)) spoiledDisk).2

def clearedTasks : TaskTable :=
  ⟨[⟨2, "Call Ann", none, "urgent", "pending", "1970-01-01T00:00:00+00:00", none⟩,
    ⟨3, "Water plants", none, "low", "pending", "1970-01-01T00:00:00+00:00", none⟩], 3⟩

def spoiledTasks : TaskTable :=
  { clearedTasks with
    rows := ⟨1, "Buy milk", none, "medium", "completed", "yesterday",
      some "1970-01-01T00:00:00+00:00"⟩ :: clearedTasks.rows }

def restRow : ReminderRow :=
  ⟨2, "Rest", "1970-01-02T00:00:00Z", "active", "1970-01-01T00:00:00+00:00"⟩

def walkRow : ReminderRow :=
  ⟨3, "Walk", "1970-01-01T12:00:00.000000000Z", "active", "1970-01-01T00:00:00+00:00"⟩

def spoiledReminders : ReminderTable := ⟨[restRow, walkRow], 3⟩

theorem listActive_spoiledReminders : spoiledReminders.listActive =
    .ok [⟨3, "Walk", .noon, .active, .epoch⟩, ⟨2, "Rest", .midnight, .active, .epoch⟩] := by
  have hactive : spoiledReminders.rows.filter (·.status == ReminderStatus.active.name) =
      [restRow, walkRow] := by decide
  have hsort : [restRow, walkRow].mergeSort ReminderRow.comesBefore = [walkRow, restRow] := by
    have hafter : restRow.comesBefore walkRow = false := by decide +kernel
    simp [List.mergeSort, hafter]
  simp only [ReminderTable.listActive, hactive, hsort]
  decide +kernel

theorem worked_spoiledDisk : Worked spoiledDisk := by
  refine worked_newDisk.play Daemon.newDaemon none .epoch ?_
  simp only [spoilings, List.forall_mem_cons]
  refine ⟨trivial, trivial, trivial, trivial, trivial, trivial, trivial, ?_, ?_, ?_, ?_, nofun⟩
  · exact Incident.keepsKeys_setTask 1 .createdAt _
  · exact Incident.keepsKeys_setTask 2 .priority _
  · exact Incident.keepsKeys_setReminder 2 .triggerTime _
  · exact Incident.keepsKeys_deleteReminder 1

theorem tables_spoiledDisk : spoiledDisk.taskTable newStore.tasks = .ok spoiledTasks ∧
    spoiledDisk.reminderTable newStore.reminders = .ok spoiledReminders := by
  decide +kernel

theorem same_clearedTasks : TaskTable.listing.Same spoiledTasks.rows clearedTasks.rows := by
  intro row hlisted
  refine List.mem_cons.trans (or_iff_right ?_)
  rintro rfl
  cases hlisted

theorem listings_agree_spoiledDisk :
    (Worked spoiledDisk ∧ Worked clearedDisk ∧
      spoiledDisk.taskTable newStore.tasks = .ok spoiledTasks ∧
      spoiledDisk.reminderTable newStore.reminders = .ok spoiledReminders) ∧
      TaskTable.listing.Agrees spoiledTasks.rows (newStore.getTask · spoiledDisk)
        (.error (.database (.unreadable (.value "urgent" "priority")))) ∧
      newStore.listPendingTasks clearedDisk = newStore.listPendingTasks spoiledDisk ∧
      ReminderTable.listing.Agrees spoiledReminders.rows (newStore.getReminder · spoiledDisk)
        (.ok [⟨3, "Walk", .noon, .active, .epoch⟩, ⟨2, "Rest", .midnight, .active, .epoch⟩]) := by
  have hcleared : Worked clearedDisk :=
    worked_spoiledDisk.acted Daemon.newDaemon none .epoch (Incident.keepsKeys_deleteTask 1)
  obtain ⟨htasks, hreminders⟩ := tables_spoiledDisk
  have hlist : newStore.listPendingTasks spoiledDisk =
      .error (.database (.unreadable (.value "urgent" "priority"))) := by
    rw [Store.listPendingTasks, Disk.queryTasks, htasks]
    decide +kernel
  have hactive : newStore.listActiveReminders spoiledDisk =
      .ok [⟨3, "Walk", .noon, .active, .epoch⟩, ⟨2, "Rest", .midnight, .active, .epoch⟩] := by
    rw [Store.listActiveReminders, Disk.queryReminders, hreminders]
    exact listActive_spoiledReminders
  obtain ⟨hpending, hsoonest⟩ :=
    Worked.listings_agree worked_spoiledDisk hcleared newStore newStore
  obtain ⟨hagrees, -, hsame⟩ := hpending spoiledTasks htasks
  obtain ⟨hordered, -⟩ := hsoonest spoiledReminders hreminders
  rw [hlist] at hagrees
  rw [hactive] at hordered
  exact ⟨⟨worked_spoiledDisk, hcleared, htasks, hreminders⟩, hagrees,
    hsame clearedTasks (by decide +kernel) same_clearedTasks, hordered⟩

end Daybook
