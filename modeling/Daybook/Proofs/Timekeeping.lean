import Daybook.Proofs.Except
import Daybook.Proofs.Reminder.Row
import Daybook.Proofs.Task.Ledger

namespace Daybook

/-- A row that the table of tasks completes. -/
def TaskRow.complete (row : TaskRow) (now : Instant) : TaskRow :=
  { row with
    status := TaskStatus.completed.name
    completedAt := some (row.completedAt.getD (String.ofList now.storedText)) }

/-- The time of the first completion is read back as before, and that of this one as it was written. -/
theorem TaskRow.read_complete {row : TaskRow} {task : Task} (h : row.read = .ok task)
    (now : Instant) :
    (row.complete now).read =
      match task.completedAt with
      | some _ => .ok (task.complete now)
      | none => (now.readBack now.storedText "completed_at").map task.complete := by
  obtain ⟨priority, hpriority, h⟩ := bind_eq_ok_iff.mp h
  obtain ⟨status, -, h⟩ := bind_eq_ok_iff.mp h
  obtain ⟨createdAt, hcreated, h⟩ := bind_eq_ok_iff.mp h
  have hread : (row.complete now).read = (do
      let completedAt ← (readTime (row.completedAt.getD (String.ofList now.storedText))
        "completed_at").map some
      return ⟨row.id, row.title, row.description, priority, .completed, createdAt, completedAt⟩) := by
    have hstatus : readValue (TaskStatus.parse TaskStatus.completed.name) TaskStatus.completed.name
        "status" = .ok .completed := rfl
    simp only [read, complete, hpriority, hstatus, hcreated]
    rfl
  rw [hread]
  cases hold : row.completedAt with
  | none =>
      rw [hold] at h
      cases h
      rw [Option.getD_none, readTime_storedText]
      cases now.readBack now.storedText "completed_at" <;> rfl
  | some text =>
      rw [hold] at h
      obtain ⟨completedAt, hcompleted, h⟩ := bind_eq_ok_iff.mp h
      obtain ⟨t, htime, rfl⟩ := map_eq_ok_iff.mp hcompleted
      cases h
      rw [Option.getD_some, htime]
      rfl

theorem TaskTable.read_of_create {table after : TaskTable} {task : NewTask} {now : Instant} {id : Int}
    (h : table.create task now = .ok (id, after)) :
    ∃ row, after.rows = table.rows ++ [row] ∧ row.id = id ∧
      row.read = (now.readBack now.storedText "created_at").map fun createdAt =>
        ⟨id, task.title, task.description, task.priority, .pending, createdAt, none⟩ := by
  obtain ⟨-, -, h⟩ := bind_eq_ok_iff.mp h
  split at h
  · cases h
    refine ⟨Task.row ⟨table.lastId + 1, task.title, task.description, task.priority, .pending, now,
      none⟩, rfl, rfl, ?_⟩
    rw [Task.read_row_eq]
    dsimp only
    cases now.readBack now.storedText "created_at" <;> rfl
  · cases h

theorem TaskTable.rows_of_complete {table after : TaskTable} {now : Instant} {id : Int}
    (h : table.complete id now = .ok after) :
    after.rows = table.rows.map fun row => if row.id = id then row.complete now else row := by
  unfold complete at h
  split at h
  · cases h
  · cases h
    rfl

theorem TaskTable.read_of_complete {table after : TaskTable} {now : Instant} {id : Int}
    (h : table.complete id now = .ok after) {row : TaskRow} (hrow : row ∈ table.rows)
    (hid : row.id = id) {task : Task} (hread : row.read = .ok task) :
    ∃ row' ∈ after.rows, row'.id = id ∧
      row'.read =
        match task.completedAt with
        | some _ => .ok (task.complete now)
        | none => (now.readBack now.storedText "completed_at").map task.complete := by
  refine ⟨row.complete now, ?_, hid, TaskRow.read_complete hread now⟩
  rw [rows_of_complete h]
  refine List.mem_map.mpr ⟨row, hrow, ?_⟩
  rw [if_pos hid]

theorem ReminderTable.read_of_create {table after : ReminderTable} {title : String}
    {trigger now : Instant} {id : Int} (h : table.create title trigger now = .ok (id, after)) :
    ∃ row, after.rows = table.rows ++ [row] ∧ row.id = id ∧
      row.read = (do
        let triggerTime ← trigger.readBack trigger.sortableText "trigger_time"
        let createdAt ← now.readBack now.storedText "created_at"
        return ⟨id, title, triggerTime, .active, createdAt⟩) := by
  unfold create at h
  split at h
  · cases h
  · cases h
    exact ⟨Reminder.row ⟨table.lastId + 1, title, trigger, .active, now⟩, rfl, rfl,
      Reminder.read_row_eq _⟩

/-- A time that was written in either form is read back when its year is plain, and otherwise the column
is told to hold no time. So it is with each time that the tables keep. -/
theorem times_read_back :
    (∀ (t : Instant) (column : String),
      readTime (String.ofList t.storedText) column = t.readBack t.storedText column ∧
      readTime (String.ofList t.sortableText) column = t.readBack t.sortableText column) ∧
    (∀ {table after : TaskTable} {task : NewTask} {now : Instant} {id : Int},
      table.create task now = .ok (id, after) →
      ∃ row, after.rows = table.rows ++ [row] ∧ row.id = id ∧
        row.read = (now.readBack now.storedText "created_at").map fun createdAt =>
          ⟨id, task.title, task.description, task.priority, .pending, createdAt, none⟩) ∧
    (∀ {table after : TaskTable} {now : Instant} {id : Int},
      table.complete id now = .ok after →
      ∀ {row : TaskRow} {task : Task}, row ∈ table.rows → row.id = id → row.read = .ok task →
      ∃ row' ∈ after.rows, row'.id = id ∧
        row'.read =
          match task.completedAt with
          | some _ => .ok (task.complete now)
          | none => (now.readBack now.storedText "completed_at").map task.complete) ∧
    ∀ {table after : ReminderTable} {title : String} {trigger now : Instant} {id : Int},
      table.create title trigger now = .ok (id, after) →
      ∃ row, after.rows = table.rows ++ [row] ∧ row.id = id ∧
        row.read = (do
          let triggerTime ← trigger.readBack trigger.sortableText "trigger_time"
          let createdAt ← now.readBack now.storedText "created_at"
          return ⟨id, title, triggerTime, .active, createdAt⟩) := by
  refine ⟨?_, TaskTable.read_of_create, ?_, ReminderTable.read_of_create⟩
  · intro t column
    exact ⟨readTime_storedText t column, readTime_sortableText t column⟩
  · intro table after now id h row task hrow hid hread
    exact TaskTable.read_of_complete h hrow hid hread

/-- A day is planned in the last second of 2016, and done in the year 10000. -/
def TaskRow.plan : TaskRow :=
  ⟨1, "Plan", none, "medium", "pending", "2016-12-31T23:59:60.500+00:00", none⟩

theorem times_read_back_plan :
    let plan : Task := ⟨1, "Plan", none, .medium, .pending, .leapSecond, none⟩
    let done : TaskTable := ⟨[TaskRow.plan.complete .tenThousand], 1⟩
    (TaskTable.empty.create { title := "Plan" } .leapSecond = .ok (1, ⟨[.plan], 1⟩) ∧
        ∃ row, [TaskRow.plan] = [] ++ [row] ∧ row.id = 1 ∧ row.read = .ok plan) ∧
      ((TaskTable.complete ⟨[.plan], 1⟩ 1 .tenThousand = .ok done ∧ TaskRow.plan.read = .ok plan) ∧
        ∃ row ∈ done.rows, row.id = 1 ∧ row.read = .error (.database (.unreadable
          (.timestamp "+10000-01-01T00:00:00+00:00" "completed_at")))) ∧
      ∃ after, ReminderTable.empty.create "Toast" .tenThousand .leapSecond = .ok (1, after) ∧
        ∃ row, after.rows = [] ++ [row] ∧ row.id = 1 ∧ row.read = .error (.database (.unreadable
          (.timestamp "+10000-01-01T00:00:00.000000000Z" "trigger_time"))) := by
  intro plan done
  have hcreate : TaskTable.empty.create { title := "Plan" } .leapSecond =
      .ok (1, ⟨[.plan], 1⟩) := by decide +kernel
  have hcomplete : TaskTable.complete ⟨[.plan], 1⟩ 1 .tenThousand = .ok done := by decide +kernel
  have hread : TaskRow.plan.read = .ok plan := by decide +kernel
  obtain ⟨-, hcreated, hcompleted, hentered⟩ := times_read_back
  refine ⟨⟨hcreate, ?_⟩, ⟨⟨hcomplete, hread⟩, ?_⟩, _, rfl, ?_⟩
  · obtain ⟨row, hrows, hid, hrow⟩ := hcreated hcreate
    refine ⟨row, hrows, hid, hrow.trans ?_⟩
    decide +kernel
  · obtain ⟨row, hrow, hid, hfault⟩ := hcompleted hcomplete List.mem_cons_self rfl hread
    refine ⟨row, hrow, hid, hfault.trans ?_⟩
    decide +kernel
  · obtain ⟨row, hrows, hid, hrow⟩ := hentered (show ReminderTable.empty.create "Toast"
      .tenThousand .leapSecond = .ok (1, _) from rfl)
    refine ⟨row, hrows, hid, hrow.trans ?_⟩
    decide +kernel

end Daybook
