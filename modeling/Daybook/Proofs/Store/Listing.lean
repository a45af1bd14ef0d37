import Daybook.Proofs.Database.Counting
import Daybook.Proofs.Listing
import Daybook.Proofs.Reminder.Row
import Daybook.Store

namespace Daybook

theorem readValue_eq_ok_iff {α : Type} {value : Except Error α} {text column : String} {a : α} :
    readValue value text column = .ok a ↔ value = .ok a := by
  cases value <;> simp [readValue]

theorem TaskStatus.name_of_parse {text : String} {status : TaskStatus}
    (h : parse text = .ok status) : status.name = text := by
  unfold parse at h
  split at h
  · rename_i found hfound
    cases h
    simpa using List.find?_some hfound
  · cases h

theorem ReminderStatus.name_of_parse {text : String} {status : ReminderStatus}
    (h : parse text = .ok status) : status.name = text := by
  unfold parse ofName? at h
  split at h
  · rename_i found hfound
    cases h
    simpa using List.find?_some hfound
  · cases h

theorem TaskRow.of_read {row : TaskRow} {task : Task} (h : row.read = .ok task) :
    task.id = row.id ∧ task.status.name = row.status := by
  obtain ⟨priority, -, h⟩ := bind_eq_ok_iff.mp h
  obtain ⟨status, hstatus, h⟩ := bind_eq_ok_iff.mp h
  obtain ⟨createdAt, -, h⟩ := bind_eq_ok_iff.mp h
  have hid : task.id = row.id ∧ task.status = status := by
    dsimp only at h
    split at h
    all_goals
      obtain ⟨completedAt, -, h⟩ := bind_eq_ok_iff.mp h
      cases h
      exact ⟨rfl, rfl⟩
  exact ⟨hid.1, hid.2 ▸ TaskStatus.name_of_parse (readValue_eq_ok_iff.mp hstatus)⟩

theorem ReminderRow.of_read {row : ReminderRow} {r : Reminder} (h : row.read = .ok r) :
    r.id = row.id ∧ r.status.name = row.status := by
  obtain ⟨triggerTime, -, h⟩ := bind_eq_ok_iff.mp h
  obtain ⟨status, hstatus, h⟩ := bind_eq_ok_iff.mp h
  obtain ⟨createdAt, -, h⟩ := bind_eq_ok_iff.mp h
  cases h
  exact ⟨rfl, ReminderStatus.name_of_parse (readValue_eq_ok_iff.mp hstatus)⟩

theorem TaskStatus.name_inj {s t : TaskStatus} : s.name = t.name ↔ s = t := by
  cases s <;> cases t <;> decide

theorem ReminderStatus.name_inj {s t : ReminderStatus} : s.name = t.name ↔ s = t := by
  cases s <;> cases t <;> decide

namespace TaskTable

/-- Pending tasks are listed by identifier. -/
def listing : Listing TaskRow Task where
  key := TaskRow.id
  read := TaskRow.read
  isListed row := row.status == TaskStatus.pending.name
  before a b := a.id < b.id
  id := Task.id
  isOpen task := task.status = .pending
  id_of_read h := (TaskRow.of_read h).1
  isOpen_iff h := by rw [← (TaskRow.of_read h).2, beq_iff_eq, TaskStatus.name_inj]
  asymm h := Int.lt_asymm h

variable {table : TaskTable}

theorem IsKeyed.gets (h : table.IsKeyed) : listing.Gets table.rows table.get :=
  Listing.gets_of_row? h.increasing table.row? (fun _ => rfl) .taskNotFound
    (fun hrow => by rw [get, hrow]; rfl) (fun hrow => by rw [get, hrow])

theorem IsKeyed.lists (h : table.IsKeyed) : listing.Lists table.rows
    (table.rows.filter (·.status == TaskStatus.pending.name)) where
  perm := .refl _
  pairwise := (List.pairwise_map.mp h.increasing).filter _

theorem IsKeyed.agrees (h : table.IsKeyed) :
    listing.Agrees table.rows table.get table.listPending := h.lists.agrees h.gets

theorem IsKeyed.pairwise_listPending (h : table.IsKeyed) {tasks : List Task}
    (hlist : table.listPending = .ok tasks) : tasks.Pairwise (·.id < ·.id) := by
  refine (h.agrees.ordered hlist).imp ?_
  rintro x y ⟨a, -, b, -, hx, hy, hlt⟩
  have hlt : listing.key a < listing.key b := hlt
  rwa [hx, hy] at hlt

theorem IsKeyed.listPending_eq {other : TaskTable} (h : table.IsKeyed) (hother : other.IsKeyed)
    (hsame : listing.Same table.rows other.rows) : other.listPending = table.listPending := by
  rw [listPending, listPending, h.lists.eq_of_same hother.lists hsame]

end TaskTable

namespace ReminderTable

/-- Active reminders are listed by the text of the trigger time, and then by identifier. -/
def listing : Listing ReminderRow Reminder where
  key := ReminderRow.id
  read := ReminderRow.read
  isListed row := row.status == ReminderStatus.active.name
  before a b := a.triggerTime < b.triggerTime ∨ a.triggerTime = b.triggerTime ∧ a.id < b.id
  id := Reminder.id
  isOpen r := r.status = .active
  id_of_read h := (ReminderRow.of_read h).1
  isOpen_iff h := by rw [← (ReminderRow.of_read h).2, beq_iff_eq, ReminderStatus.name_inj]
  asymm := by
    rintro a b (hab | ⟨hab, hid⟩) (hba | ⟨hba, hid'⟩)
    · exact String.lt_asymm hab hba
    · exact String.lt_irrefl _ (hba ▸ hab)
    · exact String.lt_irrefl _ (hab ▸ hba)
    · exact Int.lt_asymm hid hid'

variable {table : ReminderTable}

theorem IsKeyed.gets (h : table.IsKeyed) : listing.Gets table.rows table.get :=
  Listing.gets_of_row? h.increasing table.row? (fun _ => rfl) .reminderNotFound
    (fun hrow => by rw [get, hrow]; rfl) (fun hrow => by rw [get, hrow])

theorem IsKeyed.lists (h : table.IsKeyed) : listing.Lists table.rows
    ((table.rows.filter (·.status == ReminderStatus.active.name)).mergeSort
      ReminderRow.comesBefore) where
  perm := List.mergeSort_perm _ _
  pairwise := by
    generalize hactive : table.rows.filter (·.status == ReminderStatus.active.name) = active
    have hkeys : active.Pairwise fun a b => a.id ≠ b.id := by
      rw [← hactive]
      exact ((List.pairwise_map.mp h.increasing).imp fun hlt => Int.ne_of_lt hlt).filter _
    have hdistinct : (active.mergeSort ReminderRow.comesBefore).Pairwise fun a b => a.id ≠ b.id :=
      ((List.mergeSort_perm active ReminderRow.comesBefore).pairwise_iff Ne.symm).mpr hkeys
    -- rows with the same time differ in their identifiers, so that the order is strict
    refine ((ReminderRow.pairwise_mergeSort active).and hdistinct).imp ?_
    rintro a b ⟨hle, hne⟩
    refine (ReminderRow.comesBefore_iff.mp hle).imp_right ?_
    exact fun ⟨htime, hid⟩ => ⟨htime, Int.lt_iff_le_and_ne.mpr ⟨hid, hne⟩⟩

theorem IsKeyed.agrees (h : table.IsKeyed) :
    listing.Agrees table.rows table.get table.listActive := h.lists.agrees h.gets

theorem IsKeyed.listActive_eq {other : ReminderTable} (h : table.IsKeyed) (hother : other.IsKeyed)
    (hsame : listing.Same table.rows other.rows) : other.listActive = table.listActive := by
  rw [listActive, listActive, h.lists.eq_of_same hother.lists hsame]

end ReminderTable

end Daybook
