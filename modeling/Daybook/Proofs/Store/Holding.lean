import Daybook.Proofs.Database.Founding
import Daybook.Store

namespace Daybook

open Disk

/-- The numbers of the databases of a store, and their places. -/
structure Layout where
  taskNumber : Nat
  taskPlace : Place
  reminderNumber : Nat
  reminderPlace : Place

def Layout.store (layout : Layout) (config : Config) : Store :=
  ⟨⟨config.notesPath⟩, ⟨layout.taskNumber, true⟩, ⟨layout.reminderNumber, true⟩⟩

/-- The databases are one, or neither has a file where the other one has one. -/
def Layout.IsClear (layout : Layout) : Prop :=
  (layout.taskNumber = layout.reminderNumber ∧ layout.taskPlace = layout.reminderPlace) ∨
    (layout.taskNumber ≠ layout.reminderNumber ∧
      ∀ place ∈ family layout.taskPlace, place ∉ family layout.reminderPlace)

/-- The stores of a configuration are opened with a layout, and hold two tables. -/
structure Holds (config : Config) (layout : Layout) (disk : Disk) (tasks : TaskTable)
    (reminders : ReminderTable) : Prop where
  state : config.stateDir = "" ∨ disk.isDirectory config.stateDir = true
  taskPlain : Address.IsPlain config.tasksPath
  reminderPlain : Address.IsPlain config.remindersPath
  taskPath : disk.Leads config.tasksPath layout.taskPlace
  reminderPath : disk.Leads config.remindersPath layout.reminderPlace
  clear : layout.IsClear
  tasks : ∃ db, disk.Stands layout.taskNumber layout.taskPlace db ∧ db.tables.tasks = some tasks
  reminders : ∃ db, disk.Stands layout.reminderNumber layout.reminderPlace db ∧
    db.tables.reminders = some reminders

namespace Holds

variable {config : Config} {layout : Layout} {disk after : Disk} {tasks : TaskTable}
  {reminders : ReminderTable}

theorem onTasks (h : Holds config layout disk tasks reminders) {db new : Database}
    (hdb : disk.Stands layout.taskNumber layout.taskPlace db)
    (hnew : after.Stands layout.taskNumber layout.taskPlace new)
    (htouches : disk.Touches after layout.taskNumber layout.taskPlace) {tasks' : TaskTable}
    (htasks : new.tables.tasks = some tasks')
    (hreminders : new.tables.reminders = db.tables.reminders) :
    Holds config layout after tasks' reminders where
  state := h.state.imp_right (isDirectory_of_keepsDirectories htouches.directories)
  taskPlain := h.taskPlain
  reminderPlain := h.reminderPlain
  taskPath := h.taskPath.mono htouches.directories
  reminderPath := h.reminderPath.mono htouches.directories
  clear := h.clear
  tasks := ⟨new, hnew, htasks⟩
  reminders := by
    obtain ⟨other, hother, htable⟩ := h.reminders
    rcases h.clear with ⟨hnumber, hplace⟩ | ⟨hnumber, hplaces⟩
    · rw [← hnumber, ← hplace] at hother ⊢
      have hsame : db = other := Option.some.inj (hdb.database.symm.trans hother.database)
      exact ⟨new, hnew, hreminders.trans (hsame ▸ htable)⟩
    · exact ⟨other, hother.frame htouches hnumber.symm fun place hother hplace =>
        hplaces place hplace hother, htable⟩

theorem onReminders (h : Holds config layout disk tasks reminders) {db new : Database}
    (hdb : disk.Stands layout.reminderNumber layout.reminderPlace db)
    (hnew : after.Stands layout.reminderNumber layout.reminderPlace new)
    (htouches : disk.Touches after layout.reminderNumber layout.reminderPlace)
    {reminders' : ReminderTable} (hreminders : new.tables.reminders = some reminders')
    (htasks : new.tables.tasks = db.tables.tasks) :
    Holds config layout after tasks reminders' where
  state := h.state.imp_right (isDirectory_of_keepsDirectories htouches.directories)
  taskPlain := h.taskPlain
  reminderPlain := h.reminderPlain
  taskPath := h.taskPath.mono htouches.directories
  reminderPath := h.reminderPath.mono htouches.directories
  clear := h.clear
  reminders := ⟨new, hnew, hreminders⟩
  tasks := by
    obtain ⟨other, hother, htable⟩ := h.tasks
    rcases h.clear with ⟨hnumber, hplace⟩ | ⟨hnumber, hplaces⟩
    · rw [hnumber, hplace] at hother ⊢
      have hsame : db = other := Option.some.inj (hdb.database.symm.trans hother.database)
      exact ⟨new, hnew, htasks.trans (hsame ▸ htable)⟩
    · exact ⟨other, hother.frame htouches hnumber hplaces, htable⟩

theorem disconnect_tasks (h : Holds config layout disk tasks reminders) :
    Holds config layout (disk.disconnect ⟨layout.taskNumber, true⟩) tasks reminders := by
  obtain ⟨db, hdb, htable⟩ := h.tasks
  obtain ⟨new, hnew, htables, htouches⟩ := hdb.disconnect
  exact h.onTasks hdb hnew htouches (htables ▸ htable) (htables ▸ rfl)

theorem disconnect_reminders (h : Holds config layout disk tasks reminders) :
    Holds config layout (disk.disconnect ⟨layout.reminderNumber, true⟩) tasks reminders := by
  obtain ⟨db, hdb, htable⟩ := h.reminders
  obtain ⟨new, hnew, htables, htouches⟩ := hdb.disconnect
  exact h.onReminders hdb hnew htouches (htables ▸ htable) (htables ▸ rfl)

theorem close (h : Holds config layout disk tasks reminders) :
    Holds config layout ((layout.store config).close disk) tasks reminders :=
  h.disconnect_tasks.disconnect_reminders

end Holds

theorem Disk.Stands.openWith {disk : Disk} {number : Nat} {place : Place} {db : Database}
    (h : disk.Stands number place db) {path : String} (hplain : Address.IsPlain path)
    (hleads : disk.Leads path place) (lacks : Tables → Bool) (hlacks : lacks db.tables = false)
    (add : Tables → Tables) :
    ∃ after new, disk.openWith path lacks add = (.ok ⟨number, true⟩, after) ∧
      after.Stands number place new ∧ new.tables = db.tables ∧
      disk.Touches after number place := by
  obtain ⟨hparent, hbody⟩ := hleads disk (KeepsDirectories.refl disk)
  obtain ⟨after, hconnect, hstands, htouches⟩ := h.connect hplain hbody
  refine ⟨after, db.enter, ?_, hstands, rfl, htouches⟩
  rw [Disk.openWith, hparent]
  dsimp only
  rw [hconnect]
  dsimp only
  rw [hstands.tables true]
  have hsame : lacks db.enter.tables = false := hlacks
  simp only [hsame, Bool.not_false, if_true]

namespace Holds

variable {config : Config} {layout : Layout} {disk after : Disk} {tasks : TaskTable}
  {reminders : ReminderTable}

theorem openAt (h : Holds config layout disk tasks reminders) :
    ∃ after, Store.openAt config disk = (.ok (layout.store config), after) ∧
      Holds config layout after tasks reminders := by
  obtain ⟨db, hdb, htable⟩ := h.tasks
  obtain ⟨mid, entered, hopen, hentered, htables, htouches⟩ := hdb.openWith h.taskPlain h.taskPath
    (·.tasks.isNone) (by rw [htable]; rfl)
    fun tables => { tables with tasks := some .empty }
  have hmid := h.onTasks hdb hentered htouches (htables ▸ htable) (htables ▸ rfl)
  obtain ⟨db', hdb', htable'⟩ := hmid.reminders
  obtain ⟨after, entered', hopen', hentered', htables', htouches'⟩ :=
    hdb'.openWith hmid.reminderPlain hmid.reminderPath
      (·.reminders.isNone) (by rw [htable']; rfl)
      fun tables => { tables with reminders := some .empty }
  refine ⟨after, ?_,
    hmid.onReminders hdb' hentered' htouches' (htables' ▸ htable') (htables' ▸ rfl)⟩
  rw [Store.openAt, makeDirectories_of_isDirectory h.state]
  dsimp only
  rw [openTasks, hopen]
  dsimp only
  rw [openReminders, hopen']
  rfl

theorem queryTasks (h : Holds config layout disk tasks reminders) {α : Type}
    (f : TaskTable → Except Error α) :
    disk.queryTasks (layout.store config).tasks f = f tasks := by
  obtain ⟨db, hdb, htable⟩ := h.tasks
  have hread : disk.taskTable (layout.store config).tasks = .ok tasks :=
    taskTable_eq_ok_iff.mpr ⟨db.tables, hdb.tables true, htable⟩
  rw [Disk.queryTasks, hread]

theorem queryReminders (h : Holds config layout disk tasks reminders) {α : Type}
    (f : ReminderTable → Except Error α) :
    disk.queryReminders (layout.store config).reminders f = f reminders := by
  obtain ⟨db, hdb, htable⟩ := h.reminders
  have hread : disk.reminderTable (layout.store config).reminders = .ok reminders :=
    reminderTable_eq_ok_iff.mpr ⟨db.tables, hdb.tables true, htable⟩
  rw [Disk.queryReminders, hread]

theorem putTasks (h : Holds config layout disk tasks reminders) (table : TaskTable) :
    Holds config layout (disk.putTasks (layout.store config).tasks table) table reminders := by
  obtain ⟨db, hdb, -⟩ := h.tasks
  obtain ⟨new, hnew, htables, htouches⟩ :=
    hdb.commit true fun tables => { tables with tasks := some table }
  exact h.onTasks hdb hnew htouches (htables ▸ rfl) (htables ▸ rfl)

theorem putReminders (h : Holds config layout disk tasks reminders) (table : ReminderTable) :
    Holds config layout (disk.putReminders (layout.store config).reminders table) tasks table := by
  obtain ⟨db, hdb, -⟩ := h.reminders
  obtain ⟨new, hnew, htables, htouches⟩ :=
    hdb.commit true fun tables => { tables with reminders := some table }
  exact h.onReminders hdb hnew htouches (htables ▸ rfl) (htables ▸ rfl)

theorem changeTasks (h : Holds config layout disk tasks reminders) {α : Type}
    (f : TaskTable → Except Error (α × TaskTable)) :
    ∃ after, disk.changeTasks (layout.store config).tasks f = ((f tasks).map Prod.fst, after) ∧
      Holds config layout after (((f tasks).toOption.map Prod.snd).getD tasks) reminders := by
  obtain ⟨db, hdb, -⟩ := h.tasks
  have hcommit : disk.canCommit (layout.store config).tasks = true := hdb.canCommit true
  have hwrite : (layout.store config).tasks.writable = true := rfl
  unfold Disk.changeTasks
  rw [h.queryTasks, ifWritable, if_pos hwrite]
  cases hf : f tasks with
  | error e => exact ⟨disk, rfl, h⟩
  | ok result =>
      dsimp only
      rw [if_pos hcommit]
      exact ⟨_, rfl, h.putTasks result.2⟩

theorem changeReminders (h : Holds config layout disk tasks reminders) {α : Type}
    (f : ReminderTable → Except Error (α × ReminderTable)) :
    ∃ after, disk.changeReminders (layout.store config).reminders f =
        ((f reminders).map Prod.fst, after) ∧
      Holds config layout after tasks (((f reminders).toOption.map Prod.snd).getD reminders) := by
  obtain ⟨db, hdb, -⟩ := h.reminders
  have hcommit : disk.canCommit (layout.store config).reminders = true := hdb.canCommit true
  have hwrite : (layout.store config).reminders.writable = true := rfl
  unfold Disk.changeReminders
  rw [h.queryReminders, ifWritable, if_pos hwrite]
  cases hf : f reminders with
  | error e => exact ⟨disk, rfl, h⟩
  | ok result =>
      dsimp only
      rw [if_pos hcommit]
      exact ⟨_, rfl, h.putReminders result.2⟩

theorem editReminders (h : Holds config layout disk tasks reminders)
    (f : ReminderTable → Except DatabaseFault (Nat × ReminderTable))
    (hnone : ∀ table, f reminders = .ok (0, table) → table = reminders) :
    ∃ after, disk.editReminders config.remindersPath f = ((f reminders).map Prod.fst, after) ∧
      Holds config layout after tasks (((f reminders).toOption.map Prod.snd).getD reminders) := by
  obtain ⟨db, hdb, htable⟩ := h.reminders
  obtain ⟨-, hbody⟩ := h.reminderPath disk (KeepsDirectories.refl disk)
  obtain ⟨mid, hvisit, hentered, htouches⟩ := hdb.visit h.reminderPlain hbody
  have hmid := h.onReminders hdb hentered htouches htable rfl
  have hread : mid.reminderTable ⟨layout.reminderNumber, true⟩ = .ok reminders :=
    reminderTable_eq_ok_iff.mpr ⟨db.enter.tables, hentered.tables true, htable⟩
  unfold Disk.editReminders Disk.edit
  rw [hvisit]
  simp only [hread, bind, Except.bind, if_true]
  cases hf : f reminders with
  | error fault => exact ⟨_, rfl, hmid.disconnect_reminders⟩
  | ok result =>
      obtain ⟨n, table⟩ := result
      cases n with
      | zero =>
          rw [hnone table hf]
          exact ⟨_, rfl, hmid.disconnect_reminders⟩
      | succ n => exact ⟨_, rfl, (hmid.putReminders table).disconnect_reminders⟩

end Holds

end Daybook
