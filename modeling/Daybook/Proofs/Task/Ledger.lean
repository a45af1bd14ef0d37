import Daybook.Proofs.Column
import Daybook.Proofs.Numbering
import Daybook.Task.Table

namespace Daybook

/-- What is done with the tasks of a store. -/
inductive TaskDeed where
  | create (task : NewTask) (now : Instant)
  | get (id : Int)
  | complete (id : Int) (now : Instant)
  | listPending

inductive TaskAnswer where
  | created (id : Int)
  | found (task : Task)
  | completed
  | listed (tasks : List Task)
deriving DecidableEq

/-- The first completion of a task counts. -/
def Task.complete (task : Task) (now : Instant) : Task :=
  { task with status := .completed, completedAt := some (task.completedAt.getD now) }

namespace TaskLedger

/-- What a deed does to a ledger. Identifiers count the tasks that were made. -/
def perform (tasks : List Task) : TaskDeed → Except Error TaskAnswer × List Task
  | .create task now =>
      if isBlankText task.title then (.error .emptyTitle, tasks)
      else
        let id : Int := tasks.length + 1
        (.ok (.created id),
          tasks ++ [⟨id, task.title, task.description, task.priority, .pending, now, none⟩])
  | .get id =>
      match tasks.find? (·.id == id) with
      | some task => (.ok (.found task), tasks)
      | none => (.error (.taskNotFound id), tasks)
  | .complete id now =>
      match tasks.find? (·.id == id) with
      | some _ =>
          (.ok .completed, tasks.map fun task => if task.id = id then task.complete now else task)
      | none => (.error (.taskNotFound id), tasks)
  | .listPending => (.ok (.listed (tasks.filter (·.status = .pending))), tasks)

end TaskLedger

def TaskTable.perform (table : TaskTable) : TaskDeed → Except Error TaskAnswer × TaskTable
  | .create task now =>
      match table.create task now with
      | .ok (id, after) => (.ok (.created id), after)
      | .error e => (.error e, table)
  | .get id => ((table.get id).map .found, table)
  | .complete id now =>
      match table.complete id now with
      | .ok after => (.ok .completed, after)
      | .error e => (.error e, table)
  | .listPending => (table.listPending.map .listed, table)

/-- The clock shows a year of four digits, and a new title is one that the table admits, or blank. -/
def TaskDeed.IsPlain : TaskDeed → Prop
  | create task now =>
      now.HasPlainYear ∧ (isBlankText task.title = true ∨ TaskTable.admitsTitle task.title = true)
  | complete _ now => now.HasPlainYear
  | get _ | listPending => True

namespace Task

def HasPlainYears (task : Task) : Prop :=
  task.createdAt.HasPlainYear ∧ ∀ t, task.completedAt = some t → t.HasPlainYear

def row (task : Task) : TaskRow :=
  ⟨task.id, task.title, task.description, task.priority.name, task.status.name,
    String.ofList task.createdAt.storedText,
    task.completedAt.map fun t => String.ofList t.storedText⟩

theorem read_row_eq (task : Task) :
    task.row.read = (do
      let createdAt ← task.createdAt.readBack task.createdAt.storedText "created_at"
      let completedAt ←
        match task.completedAt with
        | none => .ok none
        | some t => (t.readBack t.storedText "completed_at").map some
      return { task with createdAt, completedAt }) := by
  obtain ⟨id, title, description, priority, status, createdAt, completedAt⟩ := task
  have hpriority : Priority.parse priority.name = .ok priority := by cases priority <;> rfl
  cases completedAt <;>
    simp only [TaskRow.read, row, hpriority, TaskStatus.parse_name, readValue, readTime_storedText,
      Option.map_none, Option.map_some] <;>
    rfl

theorem read_row {task : Task} (h : task.HasPlainYears) : task.row.read = .ok task := by
  obtain ⟨hcreated, hcompleted⟩ := h
  rw [read_row_eq, Instant.readBack_of_plain hcreated]
  obtain ⟨id, title, description, priority, status, createdAt, completedAt⟩ := task
  cases completedAt with
  | none => rfl
  | some t =>
      dsimp only
      rw [Instant.readBack_of_plain (hcompleted t rfl)]
      rfl

theorem complete_row (task : Task) (now : Instant) :
    (task.complete now).row = { task.row with
      status := TaskStatus.completed.name
      completedAt := some (task.row.completedAt.getD (String.ofList now.storedText)) } := by
  obtain ⟨id, title, description, priority, status, createdAt, completedAt⟩ := task
  cases completedAt <;> rfl

theorem HasPlainYears.complete {task : Task} (h : task.HasPlainYears) {now : Instant}
    (hnow : now.HasPlainYear) : (task.complete now).HasPlainYears := by
  refine ⟨h.1, ?_⟩
  rintro t ⟨⟩
  cases hcompleted : task.completedAt with
  | none => exact hnow
  | some first => exact h.2 first hcompleted

end Task

namespace TaskTable

def ofTasks (tasks : List Task) : TaskTable := ⟨tasks.map Task.row, tasks.length⟩

theorem row?_ofTasks (tasks : List Task) (id : Int) :
    (ofTasks tasks).row? id = (tasks.find? (·.id == id)).map Task.row := by
  rw [row?, ofTasks, List.find?_map]
  rfl

theorem filter_pending (tasks : List Task) :
    (tasks.map Task.row).filter (·.status == TaskStatus.pending.name) =
      (tasks.filter (·.status = .pending)).map Task.row := by
  rw [List.filter_map]
  congr 1
  apply List.filter_congr
  intro task _
  cases hstatus : task.status <;> simp [Task.row, hstatus, TaskStatus.name]

theorem modify_ofTasks (tasks : List Task) (id : Int) {f : TaskRow → TaskRow} {g : Task → Task}
    (h : ∀ task, (g task).row = f task.row) :
    (ofTasks tasks).modify id f =
      ofTasks (tasks.map fun task => if task.id = id then g task else task) := by
  rw [modify, ofTasks, ofTasks, List.length_map, List.map_map, List.map_map]
  congr 1
  apply List.map_congr_left
  intro task _
  dsimp only [Function.comp]
  by_cases hid : task.id = id
  · rw [if_pos hid, if_pos (show task.row.id = id from hid), h]
  · rw [if_neg hid, if_neg (show ¬task.row.id = id from hid)]

theorem perform_ofTasks {tasks : List Task} (h : ∀ task ∈ tasks, task.HasPlainYears)
    {deed : TaskDeed} (hdeed : deed.IsPlain) :
    (ofTasks tasks).perform deed =
      ((TaskLedger.perform tasks deed).1, ofTasks (TaskLedger.perform tasks deed).2) := by
  cases deed with
  | create task now =>
      dsimp only [perform, TaskLedger.perform]
      rw [create, NewTask.validate]
      by_cases hblank : isBlankText task.title = true
      · rw [if_pos hblank, if_pos hblank]
        rfl
      · obtain ⟨-, htitle | htitle⟩ := hdeed
        · exact absurd htitle hblank
        · rw [if_neg hblank, if_neg hblank]
          simp only [bind, Except.bind, htitle, if_true, pure, Except.pure]
          simp [ofTasks, Task.row]
  | get id =>
      dsimp only [perform, TaskLedger.perform]
      rw [get, row?_ofTasks]
      cases hfind : tasks.find? (·.id == id) with
      | none => rfl
      | some task =>
          dsimp only [Option.map_some]
          rw [Task.read_row (h task (List.mem_of_find?_eq_some hfind))]
          rfl
  | complete id now =>
      dsimp only [perform, TaskLedger.perform]
      rw [complete, row?_ofTasks]
      cases tasks.find? (·.id == id) with
      | none => rfl
      | some task =>
          dsimp only [Option.map_some]
          rw [modify_ofTasks tasks id (g := fun task => task.complete now)]
          intro task
          exact task.complete_row now
  | listPending =>
      dsimp only [perform, TaskLedger.perform]
      rw [listPending, ofTasks, filter_pending, mapM_map_eq_pure]
      · rfl
      · intro task htask
        exact Task.read_row (h task (List.mem_filter.mp htask).1)

end TaskTable

namespace Task

/-- A task that is kept changes by its first completion only. -/
structure Continues (before after : Task) : Prop where
  id : after.id = before.id
  title : after.title = before.title
  description : after.description = before.description
  priority : after.priority = before.priority
  createdAt : after.createdAt = before.createdAt
  completed : before.status = .completed → after = before

namespace Continues

theorem refl (task : Task) : task.Continues task := ⟨rfl, rfl, rfl, rfl, rfl, fun _ => rfl⟩

theorem trans {first second third : Task} (h : first.Continues second)
    (h' : second.Continues third) : first.Continues third where
  id := h'.id.trans h.id
  title := h'.title.trans h.title
  description := h'.description.trans h.description
  priority := h'.priority.trans h.priority
  createdAt := h'.createdAt.trans h.createdAt
  completed := by
    intro hcompleted
    have hsecond := h.completed hcompleted
    rw [h'.completed (hsecond ▸ hcompleted), hsecond]

end Continues

end Task

namespace TaskLedger

variable {tasks : List Task} {deed : TaskDeed}

structure IsKept (tasks : List Task) : Prop where
  years : ∀ task ∈ tasks, task.HasPlainYears
  numbered : IsNumbered (tasks.map (·.id))
  completed : ∀ task ∈ tasks, task.completedAt.isSome ↔ task.status = .completed

theorem isKept_nil : IsKept [] where
  years := by
    intro task htask
    cases htask
  numbered := IsNumbered.nil
  completed := by
    intro task htask
    cases htask

theorem IsKept.create (h : IsKept tasks) {new : NewTask} {now : Instant}
    (hnow : now.HasPlainYear) :
    IsKept (tasks ++ [⟨(tasks.length : Int) + 1, new.title, new.description, new.priority, .pending,
      now, none⟩]) where
  years := by
    intro task htask
    rcases List.mem_append.mp htask with hold | hnew
    · exact h.years task hold
    · obtain rfl := List.mem_singleton.mp hnew
      refine ⟨hnow, ?_⟩
      intro t ht
      cases ht
  numbered := h.numbered.concat rfl
  completed := by
    intro task htask
    rcases List.mem_append.mp htask with hold | hnew
    · exact h.completed task hold
    · obtain rfl := List.mem_singleton.mp hnew
      constructor <;> intro hfalse <;> cases hfalse

theorem IsKept.complete (h : IsKept tasks) (id : Int) {now : Instant} (hnow : now.HasPlainYear) :
    IsKept (tasks.map fun task => if task.id = id then task.complete now else task) where
  years := by
    intro task htask
    obtain ⟨old, hold, rfl⟩ := List.mem_map.mp htask
    split
    · exact (h.years old hold).complete hnow
    · exact h.years old hold
  numbered := by
    apply h.numbered.map
    intro task
    split <;> rfl
  completed := by
    intro task htask
    obtain ⟨old, hold, rfl⟩ := List.mem_map.mp htask
    split
    · constructor <;> intro _ <;> rfl
    · exact h.completed old hold

theorem IsKept.perform (h : IsKept tasks) (hdeed : deed.IsPlain) :
    IsKept (TaskLedger.perform tasks deed).2 := by
  cases deed with
  | create new now =>
      dsimp only [TaskLedger.perform]
      split
      · exact h
      · exact h.create hdeed.1
  | get id =>
      dsimp only [TaskLedger.perform]
      split <;> exact h
  | complete id now =>
      dsimp only [TaskLedger.perform]
      split
      · exact h.complete id hdeed
      · exact h
  | listPending => exact h

theorem IsKept.continues_complete (h : IsKept tasks) {task : Task} (htask : task ∈ tasks)
    (now : Instant) : task.Continues (task.complete now) := by
  refine ⟨rfl, rfl, rfl, rfl, rfl, ?_⟩
  intro hcompleted
  obtain ⟨first, hfirst⟩ := Option.isSome_iff_exists.mp ((h.completed task htask).mpr hcompleted)
  obtain ⟨id, title, description, priority, status, createdAt, completedAt⟩ := task
  cases hcompleted
  cases hfirst
  rfl

theorem IsKept.continues_perform (h : IsKept tasks) (deed : TaskDeed) {task : Task}
    (htask : task ∈ tasks) :
    ∃ after ∈ (TaskLedger.perform tasks deed).2, task.Continues after := by
  have hsame : ∃ after ∈ tasks, task.Continues after := ⟨task, htask, Task.Continues.refl task⟩
  cases deed with
  | create new now =>
      dsimp only [TaskLedger.perform]
      split
      · exact hsame
      · exact ⟨task, List.mem_append_left _ htask, Task.Continues.refl task⟩
  | get id =>
      dsimp only [TaskLedger.perform]
      split <;> exact hsame
  | complete id now =>
      dsimp only [TaskLedger.perform]
      split
      · refine ⟨_, List.mem_map.mpr ⟨task, htask, rfl⟩, ?_⟩
        split
        · exact h.continues_complete htask now
        · exact Task.Continues.refl task
      · exact hsame
  | listPending => exact hsame

end TaskLedger

end Daybook
