import Daybook.Proofs.Store.Session

namespace Daybook

namespace TaskLedger

def step (tasks : List Task) : Event → Option (Except Error TaskAnswer) × List Task
  | .task _ deed => (some (perform tasks deed).1, (perform tasks deed).2)
  | .reminder _ _ | .fire _ | .close _ => (none, tasks)

end TaskLedger

namespace ReminderLedger

def step (reminders : List Reminder) : Event → Option (Except Error ReminderAnswer) × List Reminder
  | .reminder _ deed => (some (perform reminders deed).1, (perform reminders deed).2)
  | .fire id => (none, fire reminders id)
  | .task _ _ | .close _ => (none, reminders)

end ReminderLedger

namespace Event

def HasPlainTask : Event → Prop
  | task _ deed => deed.IsPlain
  | reminder _ _ | fire _ | close _ => True

def HasPlainReminder : Event → Prop
  | reminder _ deed => deed.IsPlain
  | task _ _ | fire _ | close _ => True

end Event

namespace TaskLedger

variable {tasks : List Task} {events : List Event}

theorem IsKept.step (h : IsKept tasks) {event : Event} (hevent : event.HasPlainTask) :
    IsKept (TaskLedger.step tasks event).2 := by
  cases event with
  | task handle deed => exact h.perform hevent
  | reminder _ _ | fire _ | close _ => exact h

theorem IsKept.continues_step (h : IsKept tasks) (event : Event) {task : Task}
    (htask : task ∈ tasks) : ∃ after ∈ (TaskLedger.step tasks event).2, task.Continues after := by
  cases event with
  | task handle deed => exact h.continues_perform deed htask
  | reminder _ _ | fire _ | close _ => exact ⟨task, htask, Task.Continues.refl task⟩

theorem IsKept.continues_play (h : IsKept tasks) (hevents : ∀ event ∈ events, event.HasPlainTask)
    {task : Task} (htask : task ∈ tasks) :
    ∃ after ∈ (Daybook.play TaskLedger.step tasks events).2, task.Continues after := by
  induction events generalizing tasks task with
  | nil => exact ⟨task, htask, Task.Continues.refl task⟩
  | cons event events ih =>
      obtain ⟨next, hnext, hcontinues⟩ := h.continues_step event htask
      obtain ⟨last, hlast, hcontinues'⟩ := ih (h.step (hevents event List.mem_cons_self))
        (fun other hother => hevents other (List.mem_cons_of_mem _ hother)) hnext
      exact ⟨last, hlast, hcontinues.trans hcontinues'⟩

end TaskLedger

namespace ReminderLedger

variable {reminders : List Reminder} {events : List Event}

theorem exists_status_step (event : Event) {r : Reminder} (hr : r ∈ reminders) :
    ∃ status, { r with status := status } ∈ (step reminders event).2 := by
  cases event with
  | reminder handle deed => exact exists_status_perform deed hr
  | fire id => exact exists_setStatus id .fired hr
  | task _ _ | close _ => exact ⟨r.status, hr⟩

theorem exists_status_play (events : List Event) {r : Reminder} (hr : r ∈ reminders) :
    ∃ status, { r with status := status } ∈ (play step reminders events).2 := by
  induction events generalizing reminders r with
  | nil => exact ⟨r.status, hr⟩
  | cons event events ih =>
      obtain ⟨status, hnext⟩ := exists_status_step event hr
      obtain ⟨last, hlast⟩ := ih hnext
      exact ⟨last, hlast⟩

end ReminderLedger

namespace Session

/-- The tasks of a session are those of a ledger. -/
def HasTasks (config : Config) (layout : Layout) (s : Session) (tasks : List Task) : Prop :=
  TaskLedger.IsKept tasks ∧ ∃ reminders, Keeps config layout s (.ofTasks tasks) reminders

/-- The reminders of a session are those of a ledger. -/
def HasReminders (config : Config) (layout : Layout) (s : Session) (reminders : List Reminder) :
    Prop :=
  ReminderLedger.IsKept reminders ∧ ∃ tasks, Keeps config layout s tasks (.ofReminders reminders)

variable {config : Config} {layout : Layout} {s : Session} {event : Event} {events : List Event}

theorem HasTasks.step {tasks : List Task} (h : HasTasks config layout s tasks)
    (hevent : event.HasPlainTask) :
    (s.step config event).1.task? = (TaskLedger.step tasks event).1 ∧
      HasTasks config layout (s.step config event).2 (TaskLedger.step tasks event).2 := by
  obtain ⟨hkept, reminders, hkeeps⟩ := h
  obtain ⟨next, hstep, hnext⟩ := hkeeps.step event
  rw [hstep]
  cases event with
  | task handle deed =>
      have hperform := TaskTable.perform_ofTasks hkept.years hevent
      dsimp only [Event.answer, TaskTable.after] at hnext ⊢
      rw [hperform] at hnext ⊢
      exact ⟨rfl, hkept.perform hevent, _, hnext⟩
  | reminder _ _ | fire _ | close _ => exact ⟨rfl, hkept, _, hnext⟩

theorem HasReminders.step {reminders : List Reminder} (h : HasReminders config layout s reminders)
    (hevent : event.HasPlainReminder) :
    (s.step config event).1.reminder? = (ReminderLedger.step reminders event).1 ∧
      HasReminders config layout (s.step config event).2
        (ReminderLedger.step reminders event).2 := by
  obtain ⟨hkept, tasks, hkeeps⟩ := h
  obtain ⟨next, hstep, hnext⟩ := hkeeps.step event
  rw [hstep]
  cases event with
  | reminder handle deed =>
      have hperform := ReminderTable.perform_ofReminders hkept hevent
      dsimp only [Event.answer, ReminderTable.after] at hnext ⊢
      rw [hperform] at hnext ⊢
      exact ⟨rfl, hkept.perform hevent, _, hnext⟩
  | fire id =>
      obtain ⟨n, hfire⟩ := ReminderTable.fire_ofReminders hkept id
      dsimp only [ReminderTable.after] at hnext
      rw [hfire] at hnext
      exact ⟨rfl, hkept.setStatus id .fired, _, hnext⟩
  | task _ _ | close _ => exact ⟨rfl, hkept, _, hnext⟩

theorem HasTasks.answers {tasks : List Task} (h : HasTasks config layout s tasks)
    (hevents : ∀ event ∈ events, event.HasPlainTask) :
    (play (Session.step config) s events).1.map Answer.task? = (play TaskLedger.step tasks events).1 ∧
      HasTasks config layout (play (Session.step config) s events).2
        (play TaskLedger.step tasks events).2 := by
  refine play_of_step ?_ h hevents
  intro s tasks event hevent h
  exact h.step hevent

theorem HasReminders.answers {reminders : List Reminder} (h : HasReminders config layout s reminders)
    (hevents : ∀ event ∈ events, event.HasPlainReminder) :
    (play (Session.step config) s events).1.map Answer.reminder? =
        (play ReminderLedger.step reminders events).1 ∧
      HasReminders config layout (play (Session.step config) s events).2
        (play ReminderLedger.step reminders events).2 := by
  refine play_of_step ?_ h hevents
  intro s reminders event hevent h
  exact h.step hevent

variable {disk after : Disk} {store : Store}

theorem keeps_of_isOpened (h : Store.IsOpened config disk store after) (handle : Nat) :
    ∃ layout, Keeps config layout ⟨after, [(handle, store)]⟩ .empty .empty := by
  obtain ⟨layout, hstore, hholds⟩ := h.holds
  refine ⟨layout, hholds, ?_⟩
  intro pair hpair
  rw [List.mem_singleton.mp hpair]
  exact hstore

/-- The tasks of a store that was opened on a new disk are those of a ledger. Whatever its handles
do, with tasks or with reminders, every answer about tasks is the one of the ledger. -/
theorem taskAnswers_play (h : Store.IsOpened config disk store after) (handle : Nat)
    (hevents : ∀ event ∈ events, event.HasPlainTask) :
    (play (step config) ⟨after, [(handle, store)]⟩ events).1.map Answer.task? =
        (play TaskLedger.step [] events).1 ∧
      TaskLedger.IsKept (play TaskLedger.step [] events).2 ∧
      ∀ earlier later, events = earlier ++ later →
        ∀ task ∈ (play TaskLedger.step [] earlier).2,
          ∃ last ∈ (play TaskLedger.step [] events).2, task.Continues last := by
  obtain ⟨layout, hkeeps⟩ := keeps_of_isOpened h handle
  have hstart : HasTasks config layout ⟨after, [(handle, store)]⟩ [] :=
    ⟨TaskLedger.isKept_nil, .empty, hkeeps⟩
  obtain ⟨hanswers, hlast⟩ := hstart.answers hevents
  refine ⟨hanswers, hlast.1, ?_⟩
  rintro earlier later rfl task htask
  obtain ⟨-, hkept, -⟩ := hstart.answers fun event hevent =>
    hevents event (List.mem_append_left _ hevent)
  rw [play_append]
  exact hkept.continues_play (fun event hevent => hevents event (List.mem_append_right _ hevent))
    htask

/-- A task is made, completed twice and read, by two handles of which one is reopened. -/
def taskEvents : List Event :=
  [.task 0 (.create ⟨"Buy milk", none, .medium⟩ .epoch),
    .task 1 (.complete 1 .epoch),
    .close 0,
    .task 0 (.complete 1 .noon),
    .task 0 (.get 1),
    .task 1 (.create ⟨" ", none, .low⟩ .noon),
    .task 1 (.get 2),
    .task 1 .listPending]

theorem taskAnswers_play_taskEvents :
    Store.IsOpened newConfig .empty newStore newDisk ∧
      (∀ event ∈ taskEvents, event.HasPlainTask) ∧
      (play (step newConfig) ⟨newDisk, [(0, newStore)]⟩ taskEvents).1.map Answer.task? =
        [some (.ok (.created 1)), some (.ok .completed), none, some (.ok .completed),
          some (.ok (.found
            ⟨1, "Buy milk", none, .medium, .completed, .epoch, some .epoch⟩)),
          some (.error .emptyTitle), some (.error (.taskNotFound 2)), some (.ok (.listed []))] := by
  have hplain : ∀ event ∈ taskEvents, event.HasPlainTask := by
    simp [taskEvents, Event.HasPlainTask, TaskDeed.IsPlain]
    decide
  have hanswers := (taskAnswers_play isOpened_newDisk 0 hplain).1
  exact ⟨isOpened_newDisk, hplain, hanswers⟩

/-- The reminders of a store that was opened on a new disk are those of a ledger, also when another
program fires some of them. -/
theorem reminderAnswers_play (h : Store.IsOpened config disk store after) (handle : Nat)
    (hevents : ∀ event ∈ events, event.HasPlainReminder) :
    (play (step config) ⟨after, [(handle, store)]⟩ events).1.map Answer.reminder? =
        (play ReminderLedger.step [] events).1 ∧
      ReminderLedger.IsKept (play ReminderLedger.step [] events).2 ∧
      ∀ earlier later, events = earlier ++ later →
        ∀ r ∈ (play ReminderLedger.step [] earlier).2,
          ∃ status, { r with status := status } ∈ (play ReminderLedger.step [] events).2 := by
  obtain ⟨layout, hkeeps⟩ := keeps_of_isOpened h handle
  have hstart : HasReminders config layout ⟨after, [(handle, store)]⟩ [] :=
    ⟨ReminderLedger.isKept_nil, .empty, hkeeps⟩
  obtain ⟨hanswers, hlast⟩ := hstart.answers hevents
  refine ⟨hanswers, hlast.1, ?_⟩
  rintro earlier later rfl r hr
  rw [play_append]
  exact ReminderLedger.exists_status_play later hr

def reminderEvents : List Event :=
  [.reminder 0 (.create "Tea" 720 .epoch),
    .reminder 1 (.create "Tea" (-1) .epoch),
    .reminder 1 (.cancel 1),
    .close 0,
    .reminder 0 (.create "Late tea" 0 .noon),
    .fire 2,
    .reminder 1 (.cancel 2),
    .reminder 0 (.get 1),
    .reminder 0 (.cancel 3)]

theorem reminderAnswers_play_reminderEvents :
    Store.IsOpened newConfig .empty newStore newDisk ∧
      (∀ event ∈ reminderEvents, event.HasPlainReminder) ∧
      (play (step newConfig) ⟨newDisk, [(0, newStore)]⟩ reminderEvents).1.map Answer.reminder? =
        [some (.ok (.created ⟨1, "Tea", .noon, .active, .epoch⟩)),
          some (.error (.invalidOffset (-1))), some (.ok .cancelled), none,
          some (.ok (.created ⟨2, "Late tea", .noon, .active, .noon⟩)), none,
          some (.error (.invalidTransition "fired" "cancelled")),
          some (.ok (.found ⟨1, "Tea", .noon, .cancelled, .epoch⟩)),
          some (.error (.reminderNotFound 3))] := by
  have hplain : ∀ event ∈ reminderEvents, event.HasPlainReminder := by
    simp [reminderEvents, Event.HasPlainReminder, ReminderDeed.IsPlain]
    decide
  have hanswers := (reminderAnswers_play isOpened_newDisk 0 hplain).1
  exact ⟨isOpened_newDisk, hplain, hanswers⟩

end Session

end Daybook
