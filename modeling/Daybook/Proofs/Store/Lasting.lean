import Daybook.Proofs.Database.Counting
import Daybook.Store

namespace Daybook

/-- What holds of new tables and is kept by all that a store does to a table. -/
structure IsLasting (A : TaskTable → Prop) (B : ReminderTable → Prop) : Prop where
  noTasks : A .empty
  noReminders : B .empty
  createTask : ∀ {table task now id after}, A table →
    TaskTable.create table task now = .ok (id, after) → A after
  completeTask : ∀ {table id now after}, A table →
    TaskTable.complete table id now = .ok after → A after
  createReminder : ∀ {table title trigger now id after}, B table →
    ReminderTable.create table title trigger now = .ok (id, after) → B after
  cancelReminder : ∀ {table id after}, B table →
    ReminderTable.cancel table id = .ok after → B after

theorem isLasting_isKeyed : IsLasting TaskTable.IsKeyed ReminderTable.IsKeyed where
  noTasks := TaskTable.isKeyed_empty
  noReminders := ReminderTable.isKeyed_empty
  createTask h := h.create
  completeTask h := h.complete
  createReminder h := h.create
  cancelReminder h := h.cancel

variable {A : TaskTable → Prop} {B : ReminderTable → Prop} {disk : Disk}

namespace Store

theorem of_createReminder {P : Disk → Prop} (h : P disk) {store : Store} {title : String}
    {minutes : Int} {now : Instant}
    (hchange : ∀ trigger, P (disk.changeReminders store.reminders
      fun table => table.create title trigger now).2) :
    P (store.createReminder title minutes now disk).2 := by
  unfold createReminder
  split
  · exact h
  · rename_i trigger _
    have hnext := hchange trigger
    split
    · exact h
    · split <;> rename_i heq <;> rwa [heq] at hnext

end Store

namespace Disk

theorem All.appendNote (h : disk.All A B) (store : Store) (content : String) (now : Instant) :
    (store.appendNote content now disk).2.All A B := by
  unfold Store.appendNote NoteLog.append
  cases happend : disk.append store.notes.path
    (Utf8.encode (NoteEntry.format content.toList now)) with
  | error fault => exact h
  | ok after => exact h.of_databases (Disk.databases_append happend)

theorem All.createTask (h : disk.All A B) (hlasting : IsLasting A B) (store : Store)
    (task : NewTask) (now : Instant) : (store.createTask task now disk).2.All A B := by
  unfold Store.createTask
  split
  · exact h
  · exact h.changeTasks _ fun _ _ _ => hlasting.createTask

theorem All.completeTask (h : disk.All A B) (hlasting : IsLasting A B) (store : Store) (id : Int)
    (now : Instant) : (store.completeTask id now disk).2.All A B := by
  refine h.changeTasks _ fun table _ after htable hcomplete => ?_
  cases hresult : table.complete id now with
  | error e =>
      rw [hresult] at hcomplete
      cases hcomplete
  | ok changed =>
      rw [hresult] at hcomplete
      cases hcomplete
      exact hlasting.completeTask htable hresult

theorem All.createReminder (h : disk.All A B) (hlasting : IsLasting A B) (store : Store)
    (title : String) (minutes : Int) (now : Instant) :
    (store.createReminder title minutes now disk).2.All A B :=
  Store.of_createReminder h fun _ =>
    h.changeReminders store.reminders fun _ _ _ => hlasting.createReminder

theorem All.cancelReminder (h : disk.All A B) (hlasting : IsLasting A B) (store : Store) (id : Int) :
    (store.cancelReminder id disk).2.All A B := by
  refine h.changeReminders _ fun table _ after htable hcancel => ?_
  cases hresult : table.cancel id with
  | error e =>
      rw [hresult] at hcancel
      cases hcancel
  | ok changed =>
      rw [hresult] at hcancel
      cases hcancel
      exact hlasting.cancelReminder htable hresult

theorem All.openAt (h : disk.All A B) (hlasting : IsLasting A B) (config : Config) :
    (Store.openAt config disk).2.All A B := by
  have hstate : (disk.makeDirectories config.stateDir).2.All A B :=
    h.of_databases (Disk.gainsDirectories_makeDirectories disk _).databases
  unfold Store.openAt
  split
  · rename_i heq
    rw [heq] at hstate
    exact hstate
  · rename_i heq
    rw [heq] at hstate
    have htasks := hstate.openTasks hlasting.noTasks config.tasksPath
    split
    · rename_i heq
      rw [heq] at htasks
      exact htasks
    · rename_i heq
      rw [heq] at htasks
      have hreminders := htasks.openReminders hlasting.noReminders config.remindersPath
      split
      · rename_i heq
        rw [heq] at hreminders
        exact hreminders.disconnect _
      · rename_i heq
        rw [heq] at hreminders
        exact hreminders

theorem All.close (h : disk.All A B) (store : Store) : (store.close disk).All A B :=
  (h.disconnect store.tasks).disconnect store.reminders

end Disk

end Daybook
