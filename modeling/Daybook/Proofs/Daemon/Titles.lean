import Daybook.Proofs.Daemon.Failure
import Mathlib.Data.List.TakeWhile

namespace Daybook

/-- The row in which a new task is entered. -/
def NewTask.row (task : NewTask) (id : Int) (now : Instant) : TaskRow :=
  ⟨id, task.title, task.description, task.priority.name, TaskStatus.pending.name,
    String.ofList now.storedText, none⟩

namespace TaskTable

/-- The first character of a title that is not a space U+0020 is a NUL. -/
def startsWithNul (title : String) : Bool :=
  (title.toList.dropWhile (· == ' ')).head? == some '\x00'

variable {title : String}

theorem isBlankText_of_startsWithNul (h : startsWithNul title = true) :
    isBlankText title = false := by
  have hmem : '\x00' ∈ title.toList :=
    (List.dropWhile_sublist _).subset (List.mem_of_mem_head? (beq_iff_eq.mp h))
  rw [isBlankText, List.all_eq_false]
  exact ⟨'\x00', hmem, by decide⟩

theorem exists_reverse_dropWhile (p : Char → Bool) {c : Char} (h : p c = false)
    (rest : List Char) : ∃ kept, ((c :: rest).reverse.dropWhile p).reverse = c :: kept := by
  rw [List.reverse_cons, List.dropWhile_append]
  split
  · exact ⟨[], by simp [h]⟩
  · exact ⟨_, by rw [List.reverse_append]; rfl⟩

/-- The table and a look at the characters of a title differ on titles that start with a NUL alone. -/
theorem admitsTitle_of_not_blank (h : isBlankText title = false) :
    admitsTitle title = !startsWithNul title := by
  unfold admitsTitle startsWithNul
  dsimp only
  cases hfull : title.toList.dropWhile (· == ' ') with
  | nil =>
      have hspaces : ∀ c ∈ title.toList, isBlank c = true := by
        intro c hc
        rw [beq_iff_eq.mp (List.dropWhile_eq_nil_iff.mp hfull c hc)]
        decide
      rw [isBlankText, List.all_eq_true.mpr hspaces] at h
      cases h
  | cons c rest =>
      have hc : (c == ' ') = false := by
        have hhead := List.head_dropWhile_not (l := title.toList) (· == ' ') (by simp [hfull])
        simpa [hfull] using hhead
      obtain ⟨kept, hkept⟩ := exists_reverse_dropWhile (· == ' ') hc rest
      rw [hkept]
      rfl

theorem create_eq_ite (table : TaskTable) (task : NewTask) (now : Instant) :
    table.create task now =
      if isBlankText task.title = true then .error .emptyTitle
      else if startsWithNul task.title = true then
        .error (.database (.conditionFailed titleCondition))
      else .ok (table.lastId + 1,
        ⟨table.rows ++ [task.row (table.lastId + 1) now], table.lastId + 1⟩) := by
  rw [create, NewTask.validate]
  cases hblank : isBlankText task.title with
  | true => rfl
  | false =>
      rw [admitsTitle_of_not_blank hblank]
      cases startsWithNul task.title <;> rfl

end TaskTable

/-- A title is accepted if it is neither blank nor starts with a NUL. A blank title is told to be
blank, and one that starts with a NUL is refused by the table. -/
structure AnswersTitle (title : String) (accepted blank refused : Prop) : Prop where
  accepted_iff : accepted ↔ isBlankText title = false ∧ TaskTable.startsWithNul title = false
  blank_iff : blank ↔ isBlankText title = true
  refused_iff : refused ↔ TaskTable.startsWithNul title = true

theorem AnswersTitle.of_ite {α : Type} {title : String} {result x y z : α}
    (accepted blank refused : α → Prop)
    (h : result = if isBlankText title = true then x
      else if TaskTable.startsWithNul title = true then y else z)
    (hx : ¬accepted x ∧ blank x ∧ ¬refused x)
    (hy : ¬accepted y ∧ ¬blank y ∧ refused y) (hz : accepted z ∧ ¬blank z ∧ ¬refused z) :
    AnswersTitle title (accepted result) (blank result) (refused result) := by
  subst h
  cases hnul : TaskTable.startsWithNul title with
  | true =>
      rw [TaskTable.isBlankText_of_startsWithNul hnul]
      constructor <;> simp [TaskTable.isBlankText_of_startsWithNul hnul, hnul, hy]
  | false =>
      cases hblank : isBlankText title <;> constructor <;> simp [hblank, hnul, hx, hz]

namespace Store

/-- A store sees its table of tasks and can change it. -/
structure TakesTasks (store : Store) (disk : Disk) (table : TaskTable) : Prop where
  table : disk.taskTable store.tasks = .ok table
  writable : store.tasks.writable = true
  canCommit : disk.canCommit store.tasks = true

/-- The table of tasks has one row more, that of a new task. -/
def HasEntered (store : Store) (table : TaskTable) (task : NewTask) (now : Instant)
    (after : Disk) : Prop :=
  after.taskTable store.tasks =
    .ok ⟨table.rows ++ [task.row (table.lastId + 1) now], table.lastId + 1⟩

variable {store : Store} {disk : Disk} {table : TaskTable}

theorem TakesTasks.createTask_eq_ite (h : store.TakesTasks disk table) (task : NewTask)
    (now : Instant) :
    store.createTask task now disk =
      if isBlankText task.title = true then (.error .emptyTitle, disk)
      else if TaskTable.startsWithNul task.title = true then
        (.error (.database (.conditionFailed TaskTable.titleCondition)), disk)
      else (.ok (table.lastId + 1), disk.putTasks store.tasks
        ⟨table.rows ++ [task.row (table.lastId + 1) now], table.lastId + 1⟩) := by
  rw [createTask, NewTask.validate, Disk.changeTasks, Disk.queryTasks, h.table]
  dsimp only [Disk.ifWritable]
  rw [if_pos h.writable, table.create_eq_ite]
  cases isBlankText task.title with
  | true => rfl
  | false =>
      cases TaskTable.startsWithNul task.title with
      | true => rfl
      | false => simp [h.canCommit]

theorem TakesTasks.hasEntered (h : store.TakesTasks disk table) (task : NewTask) (now : Instant) :
    store.HasEntered table task now (disk.putTasks store.tasks
      ⟨table.rows ++ [task.row (table.lastId + 1) now], table.lastId + 1⟩) :=
  Disk.taskTable_putTasks h.table _

end Store

namespace Daemon

variable {daemon : Daemon} {disk : Disk} {table : TaskTable}

theorem answer_createTask {frame : Frame} {params : Params} {task : NewTask}
    (hframe : daemon.request frame = .ok ⟨Method.createTask.name, params⟩)
    (hparams : newTask params = .ok task) (now : Instant) :
    daemon.answer now frame disk =
      match daemon.store.createTask task now disk with
      | (.ok id, after) => (.success (.taskCreated (taskMessage task.title id) id), after)
      | (.error e, after) => (.failure (.ofError e), after) := by
  rw [answer, hframe]
  dsimp only
  rw [invoke, Method.ofName?_name]
  dsimp only
  rw [perform, hparams]
  dsimp only [Outcome.withParams]
  obtain ⟨_ | _, _⟩ := daemon.store.createTask task now disk <;> rfl

/-- A task is made, by the table, by the store and by a request, exactly if its title is not blank and
does not start with a NUL; the row is then entered as it was asked for. Otherwise nothing is entered: a
blank title is said to be one, and to a title that starts with a NUL, though it is not blank, the
answer is a failure of the database. -/
theorem createTask_answersTitle (h : daemon.store.TakesTasks disk table) (task : NewTask)
    (now : Instant) :
    let id := table.lastId + 1
    let fault : Error := .database (.conditionFailed TaskTable.titleCondition)
    let made := daemon.store.createTask task now disk
    AnswersTitle task.title
        (table.create task now = .ok (id, ⟨table.rows ++ [task.row id now], id⟩))
        (table.create task now = .error .emptyTitle) (table.create task now = .error fault) ∧
      AnswersTitle task.title
        (made.1 = .ok id ∧ daemon.store.HasEntered table task now made.2)
        (made = (.error .emptyTitle, disk)) (made = (.error fault, disk)) ∧
      ∀ frame params, daemon.request frame = .ok ⟨Method.createTask.name, params⟩ →
        newTask params = .ok task →
        let answer := daemon.answer now frame disk
        AnswersTitle task.title
          (answer.1 = .success (.taskCreated (taskMessage task.title id) id) ∧
            daemon.store.HasEntered table task now answer.2)
          (answer = (.failure ⟨.validationError, Error.emptyTitle.message⟩, disk))
          (answer = (.failure ⟨.ioFailure, fault.message⟩, disk)) := by
  intro id fault made
  have hentered := h.hasEntered task now
  have hmade := h.createTask_eq_ite task now
  refine ⟨?_, ?_, ?_⟩
  · exact .of_ite (· = .ok (id, ⟨table.rows ++ [task.row id now], id⟩)) (· = .error .emptyTitle)
      (· = .error fault) (table.create_eq_ite task now) (by simp [fault]) (by simp [fault])
      (by simp [id])
  · exact .of_ite (fun made => made.1 = .ok id ∧ daemon.store.HasEntered table task now made.2)
      (· = (.error .emptyTitle, disk)) (· = (.error fault, disk)) hmade (by simp [fault])
      (by simp [fault]) (by simp [id, hentered])
  · intro frame params hframe hparams answer
    have hanswer : answer = if isBlankText task.title = true then
        (.failure ⟨.validationError, Error.emptyTitle.message⟩, disk)
      else if TaskTable.startsWithNul task.title = true then
        (.failure ⟨.ioFailure, fault.message⟩, disk)
      else (.success (.taskCreated (taskMessage task.title id) id), disk.putTasks daemon.store.tasks
        ⟨table.rows ++ [task.row id now], id⟩) := by
      dsimp only [answer]
      rw [answer_createTask hframe hparams, hmade]
      cases isBlankText task.title <;> cases TaskTable.startsWithNul task.title <;> rfl
    exact .of_ite (fun answer => answer.1 = .success (.taskCreated (taskMessage task.title id) id) ∧
        daemon.store.HasEntered table task now answer.2)
      (· = (.failure ⟨.validationError, Error.emptyTitle.message⟩, disk))
      (· = (.failure ⟨.ioFailure, fault.message⟩, disk)) hanswer (by simp) (by simp)
      (by simp [id, hentered])

theorem takesTasks_newDisk : newDaemon.store.TakesTasks newDisk .empty where
  table := by rfl
  writable := rfl
  canCommit := by decide +kernel

/-- A task whose title is a space of no width, which is not blank. -/
def thinTask : NewTask := { title := "\u200b" }

def thinParams : Params := ⟨[("title", .str "\u200b")]⟩

def thinFrame : Frame :=
  .line (Utf8.encode
    "\x7b\"method\":\"create_task\",\"params\":\x7b\"title\":\"\u200b\"\x7d\x7d".toList)

theorem createTask_answersTitle_thinTask :
    newDaemon.store.TakesTasks newDisk .empty ∧
      ∃ params, newDaemon.request thinFrame = .ok ⟨Method.createTask.name, params⟩ ∧
        newTask params = .ok thinTask ∧
        (newDaemon.answer .epoch thinFrame newDisk).1 =
          .success (.taskCreated (taskMessage thinTask.title 1) 1) ∧
        newDaemon.store.HasEntered .empty thinTask .epoch
          (newDaemon.answer .epoch thinFrame newDisk).2 := by
  have hframe : newDaemon.request thinFrame = .ok ⟨Method.createTask.name, thinParams⟩ := by rfl
  have hparams : newTask thinParams = .ok thinTask := by decide +kernel
  have hanswers := (createTask_answersTitle takesTasks_newDisk thinTask .epoch).2.2 thinFrame
    thinParams hframe hparams
  exact ⟨takesTasks_newDisk, thinParams, hframe, hparams,
    hanswers.accepted_iff.mpr (by decide +kernel)⟩

/-- A task whose title starts with a NUL. -/
def nulTask : NewTask := { title := "\x00milk" }

def nulFrame : Frame :=
  .line (Utf8.encode
    "\x7b\"method\":\"create_task\",\"params\":\x7b\"title\":\"\\u0000milk\"\x7d\x7d".toList)

theorem createTask_refuses_nul :
    newDaemon.store.TakesTasks newDisk .empty ∧ isBlankText nulTask.title = false ∧
      TaskTable.empty.create nulTask .epoch =
        .error (.database (.conditionFailed TaskTable.titleCondition)) ∧
      newDaemon.answer .epoch nulFrame newDisk =
        (.failure ⟨.ioFailure,
          "database error: CHECK constraint failed: length(trim(title)) > 0"⟩, newDisk) :=
  ⟨takesTasks_newDisk, by decide +kernel, by decide +kernel, by decide +kernel⟩

end Daemon

end Daybook
