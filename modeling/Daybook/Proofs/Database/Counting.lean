import Daybook.Proofs.Database.Lasting

namespace Daybook

/-- Identifiers that increase and are counted: none is beyond the last one that was given out. -/
structure IsKeyed (ids : List Int) (lastId : Int) : Prop where
  increasing : ids.Pairwise (· < ·)
  counted : ∀ id ∈ ids, id ≤ lastId

namespace IsKeyed

variable {ids : List Int} {lastId : Int}

theorem nil (lastId : Int) : IsKeyed [] lastId := ⟨.nil, nofun⟩

theorem concat (h : IsKeyed ids lastId) : IsKeyed (ids ++ [lastId + 1]) (lastId + 1) where
  increasing := by
    refine List.pairwise_append.mpr ⟨h.increasing, List.pairwise_singleton _ _, ?_⟩
    intro id hid new hnew
    obtain rfl := List.mem_singleton.mp hnew
    exact Int.lt_add_one_of_le (h.counted id hid)
  counted := by
    intro id hid
    rcases List.mem_append.mp hid with hold | hnew
    · exact Int.le_trans (h.counted id hold) (Int.le_add_one (Int.le_refl _))
    · obtain rfl := List.mem_singleton.mp hnew
      exact Int.le_refl _

theorem sublist (h : IsKeyed ids lastId) {fewer : List Int} (hfewer : fewer.Sublist ids) :
    IsKeyed fewer lastId :=
  ⟨h.increasing.sublist hfewer, fun id hid => h.counted id (hfewer.subset hid)⟩

end IsKeyed

theorem map_key_map {ρ : Type} {key : ρ → Int} {id : Int} {f : ρ → ρ}
    (hf : ∀ row, key row = id → key (f row) = id) (rows : List ρ) :
    (rows.map fun row => if key row = id then f row else row).map key = rows.map key := by
  rw [List.map_map]
  refine List.map_congr_left fun row _ => ?_
  dsimp only [Function.comp]
  split
  · rw [hf row ‹_›, ‹key row = id›]
  · rfl

namespace TaskTable

/-- The identifiers of the rows increase, and have been given out. -/
def IsKeyed (table : TaskTable) : Prop := Daybook.IsKeyed (table.rows.map (·.id)) table.lastId

variable {table after : TaskTable}

theorem isKeyed_empty : empty.IsKeyed := Daybook.IsKeyed.nil 0

theorem IsKeyed.create (h : table.IsKeyed) {task : NewTask} {now : Instant} {id : Int}
    (hcreate : table.create task now = .ok (id, after)) : after.IsKeyed := by
  obtain ⟨_, -, hcreate⟩ := bind_eq_ok_iff.mp hcreate
  split at hcreate
  · cases hcreate
    unfold IsKeyed
    rw [List.map_append]
    exact h.concat
  · cases hcreate

theorem IsKeyed.modify (h : table.IsKeyed) {id : Int} {f : TaskRow → TaskRow}
    (hf : ∀ row, row.id = id → (f row).id = id) : (table.modify id f).IsKeyed := by
  unfold IsKeyed TaskTable.modify
  rw [map_key_map hf]
  exact h

theorem IsKeyed.complete (h : table.IsKeyed) {id : Int} {now : Instant}
    (hcomplete : table.complete id now = .ok after) : after.IsKeyed := by
  unfold TaskTable.complete at hcomplete
  split at hcomplete
  · cases hcomplete
  · cases hcomplete
    exact h.modify fun _ hid => hid

theorem id_setColumn {row changed : TaskRow} {column : TaskColumn} {value : Option String}
    (h : row.setColumn column value = .ok changed) : changed.id = row.id := by
  unfold TaskRow.setColumn at h
  split at h
  case h_3 =>
    split at h <;> cases h
    rfl
  all_goals cases h
  all_goals rfl

theorem IsKeyed.setColumn (h : table.IsKeyed) {id : Int} {column : TaskColumn}
    {value : Option String} {n : Nat} (hset : table.setColumn id column value = .ok (n, after)) :
    after.IsKeyed := by
  unfold TaskTable.setColumn at hset
  split at hset
  · cases hset
    exact h
  · rename_i row hrow
    have hid : row.id = id := by simpa using List.find?_some hrow
    cases hchanged : row.setColumn column value with
    | error fault =>
        rw [hchanged] at hset
        cases hset
    | ok changed =>
        rw [hchanged] at hset
        cases hset
        exact h.modify fun _ _ => (id_setColumn hchanged).trans hid

theorem IsKeyed.deleteRow (h : table.IsKeyed) (id : Int) : (table.deleteRow id).2.IsKeyed := by
  unfold TaskTable.deleteRow
  split
  · exact h
  · exact h.sublist (List.filter_sublist.map _)

end TaskTable

namespace ReminderTable

/-- Every identifier in the table has been given out. -/
def IsCounted (table : ReminderTable) : Prop := ∀ row ∈ table.rows, row.id ≤ table.lastId

/-- The identifiers of the rows increase, and have been given out. -/
def IsKeyed (table : ReminderTable) : Prop := Daybook.IsKeyed (table.rows.map (·.id)) table.lastId

variable {table after : ReminderTable}

theorem IsKeyed.isCounted (h : table.IsKeyed) : table.IsCounted :=
  fun row hrow => h.counted row.id (List.mem_map_of_mem hrow)

theorem isKeyed_empty : empty.IsKeyed := Daybook.IsKeyed.nil 0

theorem IsKeyed.create (h : table.IsKeyed) {title : String} {trigger now : Instant} {id : Int}
    (hcreate : table.create title trigger now = .ok (id, after)) : after.IsKeyed := by
  unfold ReminderTable.create at hcreate
  split at hcreate
  · cases hcreate
  · cases hcreate
    unfold IsKeyed
    rw [List.map_append]
    exact h.concat

theorem IsKeyed.modify (h : table.IsKeyed) {id : Int} {f : ReminderRow → ReminderRow}
    (hf : ∀ row, row.id = id → (f row).id = id) : (table.modify id f).IsKeyed := by
  unfold IsKeyed ReminderTable.modify
  rw [map_key_map hf]
  exact h

theorem IsKeyed.cancel (h : table.IsKeyed) {id : Int} (hcancel : table.cancel id = .ok after) :
    after.IsKeyed := by
  unfold ReminderTable.cancel at hcancel
  split at hcancel
  · cases hcancel
  · rename_i row _
    split at hcancel
    · cases hread : row.read <;> rw [hread] at hcancel <;> cases hcancel
    · cases hcancel
      exact h.modify fun _ hid => hid

theorem id_setColumn {row changed : ReminderRow} {column : ReminderColumn} {value : Option String}
    (h : row.setColumn column value = .ok changed) : changed.id = row.id := by
  unfold ReminderRow.setColumn at h
  split at h <;> cases h <;> rfl

theorem IsKeyed.setColumn (h : table.IsKeyed) {id : Int} {column : ReminderColumn}
    {value : Option String} {n : Nat} (hset : table.setColumn id column value = .ok (n, after)) :
    after.IsKeyed := by
  unfold ReminderTable.setColumn at hset
  split at hset
  · cases hset
    exact h
  · rename_i row hrow
    have hid : row.id = id := by simpa using List.find?_some hrow
    cases hchanged : row.setColumn column value with
    | error fault =>
        rw [hchanged] at hset
        cases hset
    | ok changed =>
        rw [hchanged] at hset
        cases hset
        exact h.modify fun _ _ => (id_setColumn hchanged).trans hid

theorem IsKeyed.deleteRow (h : table.IsKeyed) (id : Int) : (table.deleteRow id).2.IsKeyed := by
  unfold ReminderTable.deleteRow
  split
  · exact h
  · exact h.sublist (List.filter_sublist.map _)

end ReminderTable

def Tables.IsCounted (tables : Tables) : Prop :=
  ∀ table, tables.reminders = some table → table.IsCounted

structure Database.IsCounted (db : Database) : Prop where
  tables : db.tables.IsCounted
  saved : db.saved.IsCounted

namespace Disk

def IsCounted (disk : Disk) : Prop := ∀ pair ∈ disk.databases, pair.2.IsCounted

/-- The identifiers of all tables increase, and have been given out. -/
def IsKeyed (disk : Disk) : Prop := disk.All TaskTable.IsKeyed ReminderTable.IsKeyed

variable {disk : Disk}

theorem IsKeyed.isCounted (h : disk.IsKeyed) : disk.IsCounted := by
  have htables : ∀ {tables : Tables}, tables.All TaskTable.IsKeyed ReminderTable.IsKeyed →
      tables.IsCounted :=
    fun h table htable => (h.reminders table htable).isCounted
  intro pair hpair
  exact ⟨htables (h pair hpair).tables, htables (h pair hpair).saved⟩

theorem isCounted_of_reminderTable (h : disk.IsCounted) {c : Connection} {table : ReminderTable}
    (htable : disk.reminderTable c = .ok table) : table.IsCounted := by
  obtain ⟨tables, htables, hsome⟩ := reminderTable_eq_ok_iff.mp htable
  obtain ⟨db, hdb, rfl, -⟩ := tables_eq_ok_iff.mp htables
  obtain ⟨before, after, hsplit, -⟩ := List.lookup_eq_some_iff.mp hdb
  refine (h (c.number, db) ?_).tables table hsome
  rw [hsplit]
  exact List.mem_append_right _ List.mem_cons_self

end Disk

end Daybook
