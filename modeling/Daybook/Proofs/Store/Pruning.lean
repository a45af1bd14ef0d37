import Daybook.Proofs.Database.Pruning
import Daybook.Proofs.Store.Families

namespace Daybook

namespace Disk

variable {disk after : Disk} {path : String} {q : Place} {c : Connection}

theorem IsSound.prune {place : Place} (h : disk.IsSound place) (hapart : IsApart place q) :
    (disk.prune q).IsSound place := by
  rcases h with hparts | ⟨number, db, hdb⟩
  · exact Or.inl fun there hthere => (hparts there hthere).prune q
  · exact Or.inr ⟨number, db, hdb.prune hapart⟩

theorem IsSound.inUse_of_connect (h : disk.IsSound (Path.place path))
    (hplain : Address.IsPlain path) (hconnect : disk.connect path = (.ok c, after)) :
    ∃ db, after.InUse c.number (Path.place path) db := by
  obtain ⟨number, tables, hawaits⟩ := h.exists_awaits
  obtain ⟨rfl, -, ⟨db, hdb, -⟩, -⟩ :=
    hawaits.connect hplain (bodyPlace?_of_connect hplain hconnect) hconnect
  exact ⟨db, hdb⟩

theorem openWith_of_prune (hsound : disk.IsSound (Path.place path)) (hplain : Address.IsPlain path)
    (havoids : Path.Avoids q path) (hq : q ∉ family (Path.place path)) {lacks : Tables → Bool}
    {add : Tables → Tables} (h : (disk.prune q).openWith path lacks add = (.ok c, after)) :
    ∃ mid, disk.openWith path lacks add = (.ok c, mid) ∧ after = mid.prune q := by
  have hgains := gainsDirectories_ensureParent disk path
  unfold openWith at h ⊢
  rw [ensureParent_prune disk havoids] at h
  rcases hparent : disk.ensureParent path with ⟨fault | _, start⟩
  · rw [hparent] at h
    cases h
  · rw [hparent] at h hgains
    simp only [Prod.map_apply, id_eq, connect_prune start havoids hplain hq] at h
    rcases hconnect : start.connect path with ⟨fault | found, mid⟩
    · rw [hconnect] at h
      cases h
    · obtain ⟨db, hdb⟩ := (hsound.gain hgains).inUse_of_connect hplain hconnect
      have hapart := isApart_of_not_mem havoids.place hq
      simp only [hconnect, Prod.map_apply, id_eq, (hdb.prune hapart).tables,
        commit_prune hdb hapart] at h
      simp only [hconnect, hdb.tables]
      split at h
      · rw [if_pos ‹_›]
        cases h
        exact ⟨mid, rfl, rfl⟩
      · rw [if_neg ‹_›]
        split at h
        · rw [if_pos ‹_›]
          cases h
          exact ⟨_, rfl, rfl⟩
        · cases h

end Disk

namespace Store

open Disk

variable {config : Config} {store : Store} {disk after : Disk} {q : Place}

/-- A place that belongs to neither database, and which is not come to when they are opened. -/
structure IsClearOf (config : Config) (q : Place) : Prop where
  working : workingDirectory.IsOutside q
  state : Path.Avoids q config.stateDir
  tasks : Path.Avoids q config.tasksPath
  reminders : Path.Avoids q config.remindersPath
  taskFamily : q ∉ Disk.family (Path.place config.tasksPath)
  reminderFamily : q ∉ Disk.family (Path.place config.remindersPath)

theorem IsClearOf.taskApart (h : IsClearOf config q) : IsApart (Path.place config.tasksPath) q :=
  isApart_of_not_mem h.tasks.place h.taskFamily

theorem IsClearOf.reminderApart (h : IsClearOf config q) :
    IsApart (Path.place config.remindersPath) q :=
  isApart_of_not_mem h.reminders.place h.reminderFamily

/-- A store that is opened without a place is opened with it. -/
theorem openAt_of_prune (hclear : IsClearOf config q) (hfiles : config.HasPlainFiles)
    (hwork : disk.find? workingDirectory = some .directory)
    (htasks : disk.IsSound (Path.place config.tasksPath))
    (hreminders : disk.IsSound (Path.place config.remindersPath))
    (h : openAt config (disk.prune q) = (.ok store, after)) :
    ∃ mid, openAt config disk = (.ok store, mid) ∧ after = mid.prune q := by
  have hgains := gainsDirectories_makeDirectories disk config.stateDir
  unfold openAt at h ⊢
  rw [makeDirectories_prune disk hclear.state] at h
  rcases hmade : disk.makeDirectories config.stateDir with ⟨fault | _, first⟩
  · rw [hmade] at h
    cases h
  · rw [hmade] at h hgains
    simp only [Prod.map_apply, id_eq] at h
    split at h
    · cases h
    · rename_i tasks next hopen
      obtain ⟨mid, hmid, rfl⟩ := openWith_of_prune (htasks.gain hgains) hfiles.taskPlain
        hclear.tasks hclear.taskFamily hopen
      have hsound := isSound_of_openTasks hfiles (hgains.keepsDirectories _ hwork)
        (htasks.gain hgains) (hreminders.gain hgains) hmid
      split at h
      · cases h
      · rename_i reminders last hopen'
        obtain ⟨final, hfinal, rfl⟩ := openWith_of_prune hsound hfiles.reminderPlain
          hclear.reminders hclear.reminderFamily hopen'
        cases h
        refine ⟨final, ?_, rfl⟩
        have hmid' : first.openTasks config.tasksPath = (.ok tasks, mid) := hmid
        have hfinal' : mid.openReminders config.remindersPath = (.ok reminders, final) := hfinal
        dsimp only
        rw [hmid']
        dsimp only
        rw [hfinal']

section Operations

variable {base : Disk} {records : Records} (h : Serves config store [] base disk records)
  (hclear : IsClearOf config q)
include h hclear

theorem createTask_prune (task : NewTask) (now : Instant) :
    store.createTask task now (disk.prune q) =
      (store.createTask task now disk).map id (prune · q) := by
  obtain ⟨db, hdb, -⟩ := h.tasks
  simp only [createTask, changeTasks_prune hdb hclear.taskApart]
  split <;> rfl

theorem listPendingTasks_prune :
    store.listPendingTasks (disk.prune q) = store.listPendingTasks disk := by
  obtain ⟨db, hdb, -⟩ := h.tasks
  exact queryTasks_prune hdb hclear.taskApart _

theorem completeTask_prune (number : Int) (now : Instant) :
    store.completeTask number now (disk.prune q) =
      (store.completeTask number now disk).map id (prune · q) := by
  obtain ⟨db, hdb, -⟩ := h.tasks
  exact changeTasks_prune hdb hclear.taskApart _

theorem createReminder_prune (title : String) (minutes : Int) (now : Instant) :
    store.createReminder title minutes now (disk.prune q) =
      (store.createReminder title minutes now disk).map id (prune · q) := by
  obtain ⟨db, hdb, htable⟩ := h.reminders
  unfold createReminder
  cases Reminder.triggerTime? now minutes with
  | error e => rfl
  | ok trigger =>
      dsimp only
      split
      · rfl
      · obtain ⟨new, -, hnew, -, -⟩ :=
          hdb.changeReminders htable fun table => table.create title trigger now
        rw [changeReminders_prune hdb hclear.reminderApart]
        generalize disk.changeReminders store.reminders (fun table =>
          table.create title trigger now) = result at hnew ⊢
        obtain ⟨e | number, next⟩ := result
        · rfl
        · dsimp only [Prod.map_apply, id_eq]
          rw [queryReminders_prune hnew hclear.reminderApart]

theorem listActiveReminders_prune :
    store.listActiveReminders (disk.prune q) = store.listActiveReminders disk := by
  obtain ⟨db, hdb, -⟩ := h.reminders
  exact queryReminders_prune hdb hclear.reminderApart _

theorem cancelReminder_prune (number : Int) :
    store.cancelReminder number (disk.prune q) =
      (store.cancelReminder number disk).map id (prune · q) := by
  obtain ⟨db, hdb, -⟩ := h.reminders
  exact changeReminders_prune hdb hclear.reminderApart _

theorem taskTable_prune :
    (disk.prune q).taskTable store.tasks = disk.taskTable store.tasks := by
  obtain ⟨db, hdb, -⟩ := h.tasks
  simp only [Disk.taskTable, hdb.tables, (hdb.prune hclear.taskApart).tables]

theorem reminderTable_prune :
    (disk.prune q).reminderTable store.reminders = disk.reminderTable store.reminders := by
  obtain ⟨db, hdb, -⟩ := h.reminders
  simp only [Disk.reminderTable, hdb.tables, (hdb.prune hclear.reminderApart).tables]

end Operations

end Store

end Daybook
