import Daybook.Proofs.Play
import Daybook.Proofs.Reminder.Ledger
import Daybook.Proofs.Store.Opening
import Daybook.Proofs.Task.Ledger

namespace Daybook

/-- What happens in a session. A handle that is not open is opened when it is used. -/
inductive Event where
  | task (handle : Nat) (deed : TaskDeed)
  | reminder (handle : Nat) (deed : ReminderDeed)
  | fire (id : Int)
  | close (handle : Nat)

inductive Answer where
  | task (answer : Except Error TaskAnswer)
  | reminder (answer : Except Error ReminderAnswer)
  | fired (answer : Except DatabaseFault Nat)
  | closed

namespace Answer

def task? : Answer → Option (Except Error TaskAnswer)
  | task answer => some answer
  | reminder _ | fired _ | closed => none

def reminder? : Answer → Option (Except Error ReminderAnswer)
  | reminder answer => some answer
  | task _ | fired _ | closed => none

end Answer

namespace Store

def performTask (store : Store) (disk : Disk) : TaskDeed → Except Error TaskAnswer × Disk
  | .create task now =>
      match store.createTask task now disk with
      | (result, disk) => (result.map .created, disk)
  | .get id => ((store.getTask id disk).map .found, disk)
  | .complete id now =>
      match store.completeTask id now disk with
      | (result, disk) => (result.map fun () => .completed, disk)
  | .listPending => ((store.listPendingTasks disk).map .listed, disk)

def performReminder (store : Store) (disk : Disk) :
    ReminderDeed → Except Error ReminderAnswer × Disk
  | .create title minutes now =>
      match store.createReminder title minutes now disk with
      | (result, disk) => (result.map .created, disk)
  | .get id => ((store.getReminder id disk).map .found, disk)
  | .cancel id =>
      match store.cancelReminder id disk with
      | (result, disk) => (result.map fun () => .cancelled, disk)
  | .listActive => ((store.listActiveReminders disk).map .listed, disk)

end Store

/-- A disk and the stores that are open on it, each under its handle. -/
structure Session where
  disk : Disk
  stores : List (Nat × Store)

namespace Session

/-- The store under a handle, which is opened when it is not open. -/
def use (config : Config) (s : Session) (handle : Nat) : Except Error Store × Session :=
  match s.stores.lookup handle with
  | some store => (.ok store, s)
  | none =>
      match Store.openAt config s.disk with
      | (.ok store, disk) => (.ok store, ⟨disk, (handle, store) :: s.stores⟩)
      | (.error e, disk) => (.error e, { s with disk := disk })

def step (config : Config) (s : Session) : Event → Answer × Session
  | .task handle deed =>
      match s.use config handle with
      | (.error e, s) => (.task (.error e), s)
      | (.ok store, s) =>
          match store.performTask s.disk deed with
          | (answer, disk) => (.task answer, { s with disk := disk })
  | .reminder handle deed =>
      match s.use config handle with
      | (.error e, s) => (.reminder (.error e), s)
      | (.ok store, s) =>
          match store.performReminder s.disk deed with
          | (answer, disk) => (.reminder answer, { s with disk := disk })
  | .fire id =>
      match s.disk.editReminders config.remindersPath fun table => table.fire id with
      | (answer, disk) => (.fired answer, { s with disk := disk })
  | .close handle =>
      match s.stores.lookup handle with
      | some store => (.closed, ⟨store.close s.disk, s.stores.filter (·.1 != handle)⟩)
      | none => (.closed, s)

end Session

def TaskTable.after (table : TaskTable) : Event → TaskTable
  | .task _ deed => (table.perform deed).2
  | .reminder _ _ | .fire _ | .close _ => table

def ReminderTable.after (table : ReminderTable) : Event → ReminderTable
  | .reminder _ deed => (table.perform deed).2
  | .fire id => ((table.fire id).toOption.map Prod.snd).getD table
  | .task _ _ | .close _ => table

/-- The answer of two tables to an event. -/
def Event.answer (tasks : TaskTable) (reminders : ReminderTable) : Event → Answer
  | .task _ deed => .task (tasks.perform deed).1
  | .reminder _ deed => .reminder (reminders.perform deed).1
  | .fire id => .fired ((reminders.fire id).map Prod.fst)
  | .close _ => .closed

namespace Holds

variable {config : Config} {layout : Layout} {disk : Disk} {tasks : TaskTable}
  {reminders : ReminderTable}

theorem performTask (h : Holds config layout disk tasks reminders) (deed : TaskDeed) :
    ∃ after, (layout.store config).performTask disk deed = ((tasks.perform deed).1, after) ∧
      Holds config layout after (tasks.perform deed).2 reminders := by
  cases deed with
  | create task now =>
      dsimp only [Store.performTask, TaskTable.perform]
      rw [Store.createTask]
      cases hvalid : task.validate with
      | error e =>
          have hcreate : tasks.create task now = .error e := by
            rw [TaskTable.create, hvalid]
            rfl
          rw [hcreate]
          exact ⟨disk, rfl, h⟩
      | ok =>
          obtain ⟨after, hchange, hafter⟩ := h.changeTasks fun table => table.create task now
          dsimp only
          rw [hchange]
          cases hcreate : tasks.create task now with
          | error e =>
              rw [hcreate] at hafter
              exact ⟨after, rfl, hafter⟩
          | ok result =>
              rw [hcreate] at hafter
              exact ⟨after, rfl, hafter⟩
  | get id =>
      dsimp only [Store.performTask, TaskTable.perform]
      rw [Store.getTask, h.queryTasks]
      exact ⟨disk, rfl, h⟩
  | complete id now =>
      dsimp only [Store.performTask, TaskTable.perform]
      obtain ⟨after, hchange, hafter⟩ := h.changeTasks fun table =>
        (table.complete id now).map fun table => ((), table)
      rw [Store.completeTask, hchange]
      cases hcomplete : tasks.complete id now with
      | error e =>
          rw [hcomplete] at hafter
          exact ⟨after, rfl, hafter⟩
      | ok table =>
          rw [hcomplete] at hafter
          exact ⟨after, rfl, hafter⟩
  | listPending =>
      dsimp only [Store.performTask, TaskTable.perform]
      rw [Store.listPendingTasks, h.queryTasks]
      exact ⟨disk, rfl, h⟩

theorem performReminder (h : Holds config layout disk tasks reminders) (deed : ReminderDeed) :
    ∃ after, (layout.store config).performReminder disk deed =
        ((reminders.perform deed).1, after) ∧
      Holds config layout after tasks (reminders.perform deed).2 := by
  cases deed with
  | create title minutes now =>
      dsimp only [Store.performReminder, ReminderTable.perform]
      rw [Store.createReminder]
      cases Reminder.triggerTime? now minutes with
      | error e => exact ⟨disk, rfl, h⟩
      | ok trigger =>
          obtain ⟨after, hchange, hafter⟩ := h.changeReminders fun table =>
            table.create title trigger now
          dsimp only
          rw [hchange]
          by_cases htitle : isBlankText title = true
          · have hcreate : reminders.create title trigger now = .error .emptyTitle := by
              rw [ReminderTable.create, if_pos htitle]
            rw [if_pos htitle, hcreate]
            exact ⟨disk, rfl, h⟩
          · rw [if_neg htitle]
            cases hcreate : reminders.create title trigger now with
            | error e =>
                rw [hcreate] at hafter
                exact ⟨after, rfl, hafter⟩
            | ok result =>
                rw [hcreate] at hafter
                refine ⟨after, ?_, hafter⟩
                dsimp only [Except.map]
                rw [hafter.queryReminders]
                rfl
  | get id =>
      dsimp only [Store.performReminder, ReminderTable.perform]
      rw [Store.getReminder, h.queryReminders]
      exact ⟨disk, rfl, h⟩
  | cancel id =>
      dsimp only [Store.performReminder, ReminderTable.perform]
      obtain ⟨after, hchange, hafter⟩ := h.changeReminders fun table =>
        (table.cancel id).map fun table => ((), table)
      rw [Store.cancelReminder, hchange]
      cases hcancel : reminders.cancel id with
      | error e =>
          rw [hcancel] at hafter
          exact ⟨after, rfl, hafter⟩
      | ok table =>
          rw [hcancel] at hafter
          exact ⟨after, rfl, hafter⟩
  | listActive =>
      dsimp only [Store.performReminder, ReminderTable.perform]
      rw [Store.listActiveReminders, h.queryReminders]
      exact ⟨disk, rfl, h⟩

end Holds

namespace Session

/-- A session goes by two tables. -/
structure Keeps (config : Config) (layout : Layout) (s : Session) (tasks : TaskTable)
    (reminders : ReminderTable) : Prop where
  disk : Holds config layout s.disk tasks reminders
  stores : ∀ pair ∈ s.stores, pair.2 = layout.store config

variable {config : Config} {layout : Layout} {s : Session} {tasks : TaskTable}
  {reminders : ReminderTable}

theorem Keeps.of_lookup (h : Keeps config layout s tasks reminders) {handle : Nat} {store : Store}
    (hlookup : s.stores.lookup handle = some store) : store = layout.store config := by
  obtain ⟨before, after, hstores, -⟩ := List.lookup_eq_some_iff.mp hlookup
  exact h.stores (handle, store) (by simp [hstores])

theorem Keeps.use (h : Keeps config layout s tasks reminders) (handle : Nat) :
    ∃ next, s.use config handle = (.ok (layout.store config), next) ∧
      Keeps config layout next tasks reminders := by
  rw [Session.use]
  cases hlookup : s.stores.lookup handle with
  | some store =>
      obtain rfl := h.of_lookup hlookup
      exact ⟨s, rfl, h⟩
  | none =>
      obtain ⟨disk, hopen, hdisk⟩ := h.disk.openAt
      dsimp only
      rw [hopen]
      refine ⟨_, rfl, hdisk, ?_⟩
      intro pair hpair
      rcases List.mem_cons.mp hpair with rfl | hold
      · rfl
      · exact h.stores pair hold

theorem Keeps.step (h : Keeps config layout s tasks reminders) (event : Event) :
    ∃ next, s.step config event = (event.answer tasks reminders, next) ∧
      Keeps config layout next (tasks.after event) (reminders.after event) := by
  cases event with
  | task handle deed =>
      obtain ⟨mid, huse, hmid⟩ := h.use handle
      obtain ⟨disk, hperform, hdisk⟩ := hmid.disk.performTask deed
      refine ⟨{ mid with disk := disk }, ?_, hdisk, hmid.stores⟩
      rw [Session.step, huse]
      dsimp only
      rw [hperform]
      rfl
  | reminder handle deed =>
      obtain ⟨mid, huse, hmid⟩ := h.use handle
      obtain ⟨disk, hperform, hdisk⟩ := hmid.disk.performReminder deed
      refine ⟨{ mid with disk := disk }, ?_, hdisk, hmid.stores⟩
      rw [Session.step, huse]
      dsimp only
      rw [hperform]
      rfl
  | fire id =>
      obtain ⟨disk, hedit, hdisk⟩ := h.disk.editReminders (fun table => table.fire id)
        fun table => ReminderTable.eq_of_fire_none
      refine ⟨{ s with disk := disk }, ?_, hdisk, h.stores⟩
      rw [Session.step, hedit]
      rfl
  | close handle =>
      rw [Session.step]
      cases hlookup : s.stores.lookup handle with
      | none => exact ⟨s, rfl, h⟩
      | some store =>
          obtain rfl := h.of_lookup hlookup
          refine ⟨_, rfl, h.disk.close, ?_⟩
          intro pair hpair
          exact h.stores pair (List.mem_filter.mp hpair).1

end Session

end Daybook
