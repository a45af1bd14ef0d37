import Daybook.Proofs.Database.Frame

namespace Daybook.Disk

variable {disk : Disk} {c : Connection}

@[simp] theorem database?_refreshLog (disk : Disk) (number : Nat) (db : Database) (other : Nat) :
    (disk.refreshLog number db).database? other = disk.database? other := by
  rw [database?, databases_refreshLog]
  rfl

theorem holdsPart_ne_nil {number : Nat} {part : Part} {place : Place}
    (h : disk.holdsPart number part place = true) : place ≠ [] := by
  rintro rfl
  cases h

theorem holdsPart_of_isOverwritten {number : Nat} {part : Part} {place : Place}
    (h : disk.isOverwritten number part place = true) : disk.holdsPart number part place = true := by
  unfold isOverwritten at h
  unfold holdsPart
  split at h
  · rename_i hfind
    rw [hfind]
    exact h
  · cases h

theorem find?_refreshLog (disk : Disk) (number : Nat) (db : Database) (place : Place) :
    (disk.refreshLog number db).find? place = disk.find? place ∨
      (disk.refreshLog number db).find? place = some (.part number .log true []) := by
  unfold refreshLog
  split
  · exact Or.inl rfl
  · rename_i home _
    split
    · rename_i hlog
      by_cases hplace : place = logPlace home
      · subst hplace
        exact Or.inr (find?_put_self _ _ _ (holdsPart_ne_nil hlog))
      · exact Or.inl (find?_put_of_ne _ _ hplace)
    · exact Or.inl rfl

theorem isOverwritten_of_refreshLog {number : Nat} {db : Database} {n : Nat} {part : Part}
    {place : Place} (h : (disk.refreshLog number db).isOverwritten n part place = true) :
    disk.isOverwritten n part place = true := by
  unfold isOverwritten at h ⊢
  rcases find?_refreshLog disk number db place with hsame | hlog
  · rw [hsame] at h
    exact h
  · rw [hlog] at h
    cases h

theorem isBuried_of_refreshLog {number : Nat} {db : Database} {n : Nat} {place : Place}
    (hreach : db.log = .nothing)
    (h : ((disk.putDatabase number db).refreshLog number db).isBuried n place = true) :
    disk.isBuried n place = true := by
  have hself : ∀ part : Option Database, part = some db →
      (part.map fun db => db.under == some n && db.log != .nothing).getD false = false := by
    rintro _ rfl
    simp [hreach]
  unfold isBuried at h ⊢
  split at h
  · rename_i other intact bytes hfind
    rw [database?_refreshLog] at h
    by_cases hnumber : other = number
    · subst hnumber
      rw [hself _ (database?_putDatabase_self disk other db)] at h
      cases h
    · rw [database?_putDatabase_of_ne disk db hnumber] at h
      rcases find?_refreshLog (disk.putDatabase number db) number db place with hsame | hlog
      · rw [hsame, find?_putDatabase] at hfind
        rw [hfind]
        exact h
      · rw [hlog] at hfind
        cases hfind
        exact absurd rfl hnumber
  · cases h

theorem hasOverwrittenLog_refreshLog (number : Nat) (db : Database) :
    (disk.refreshLog number db).hasOverwrittenLog number db = false := by
  unfold hasOverwrittenLog
  split
  · rename_i home hhome
    rw [Bool.eq_false_iff]
    intro h
    have hlog := holdsPart_of_isOverwritten (isOverwritten_of_refreshLog h)
    rw [refreshLog, hhome, isOverwritten] at h
    dsimp only at h
    rw [if_pos hlog, find?_put_self _ _ _ (holdsPart_ne_nil hlog)] at h
    cases h
  · rfl


theorem log_commit_of_logged {db : Database} (h : db.logged = true) (tables : Tables)
    (overwritten : Bool) : (db.commit tables overwritten).log ≠ .nothing := by
  rw [Database.commit, if_pos h]
  unfold Database.reachAfter
  dsimp only
  split
  · exact nofun
  · split
    · exact nofun
    · exact nofun
    · split <;> exact nofun
    · exact nofun

theorem home_commit (db : Database) (tables : Tables) (overwritten : Bool) :
    (db.commit tables overwritten).home = db.home := by
  unfold Database.commit
  split <;> rfl

theorem tables_eq_ok_iff {tables : Tables} :
    disk.tables c = .ok tables ↔ ∃ db, disk.database? c.number = some db ∧ db.tables = tables ∧
      disk.isDamaged c.number db = false ∧
      (1 < db.users && db.log != .nothing && disk.hasOverwrittenLog c.number db) = false := by
  unfold Disk.tables
  cases hdb : disk.database? c.number with
  | none => exact ⟨nofun, fun ⟨_, h, _⟩ => nomatch h⟩
  | some db =>
      dsimp only
      constructor
      · intro h
        split at h
        · cases h
        · split at h
          · cases h
          · cases h
            exact ⟨db, rfl, rfl, Bool.eq_false_iff.mpr ‹_›, Bool.eq_false_iff.mpr ‹_›⟩
      · rintro ⟨_, ⟨⟩, rfl, hdamaged, hlog⟩
        rw [hdamaged, hlog]
        rfl

theorem tables_commit {tables : Tables} (h : disk.tables c = .ok tables)
    (change : Tables → Tables) : (disk.commit c change).tables c = .ok (change tables) := by
  obtain ⟨db, hdb, rfl, hdamaged, -⟩ := tables_eq_ok_iff.mp h
  have hcommit : disk.commit c change =
      (disk.putDatabase c.number
        (db.commit (change db.tables) (disk.hasOverwrittenLog c.number db))).refreshLog c.number
        (db.commit (change db.tables) (disk.hasOverwrittenLog c.number db)) := by
    rw [commit, hdb]
  rw [hcommit]
  generalize hnew : db.commit (change db.tables) (disk.hasOverwrittenLog c.number db) = new
  refine tables_eq_ok_iff.mpr ⟨new, ?_, ?_, ?_, ?_⟩
  · rw [database?_refreshLog, database?_putDatabase_self]
  · rw [← hnew, Database.commit]
    split <;> rfl
  · rw [Bool.eq_false_iff]
    intro hnow
    unfold isDamaged at hnow hdamaged
    rw [← hnew, home_commit] at hnow
    split at hnow
    · rename_i home hhome
      rw [hhome] at hdamaged
      dsimp only at hdamaged
      obtain ⟨hlog, hover⟩ := of_decide_eq_true hnow
      rw [hnew] at hlog hover
      have hover' : (disk.putDatabase c.number new).isOverwritten c.number .body home = true ∨
          disk.isBuried c.number home = true :=
        hover.imp isOverwritten_of_refreshLog (isBuried_of_refreshLog hlog)
      rw [← hnew] at hlog
      have hlogged : db.logged = false := by
        rw [Bool.eq_false_iff]
        intro hlogged
        exact log_commit_of_logged hlogged _ _ hlog
      rw [Database.commit, hlogged] at hlog
      exact of_decide_eq_false hdamaged ⟨hlog, hover'⟩
    · cases hnow
  · rw [hasOverwrittenLog_refreshLog, Bool.and_false]

theorem taskTable_eq_ok_iff {table : TaskTable} :
    disk.taskTable c = .ok table ↔
      ∃ tables, disk.tables c = .ok tables ∧ tables.tasks = some table := by
  refine bind_eq_ok_iff.trans (exists_congr fun tables => and_congr_right fun _ => ?_)
  cases tables.tasks <;> simp [pure, Except.pure]

theorem reminderTable_eq_ok_iff {table : ReminderTable} :
    disk.reminderTable c = .ok table ↔
      ∃ tables, disk.tables c = .ok tables ∧ tables.reminders = some table := by
  refine bind_eq_ok_iff.trans (exists_congr fun tables => and_congr_right fun _ => ?_)
  cases tables.reminders <;> simp [pure, Except.pure]

theorem reminderTable_putReminders {table : ReminderTable} (h : disk.reminderTable c = .ok table)
    (after : ReminderTable) : (disk.putReminders c after).reminderTable c = .ok after := by
  obtain ⟨tables, htables, -⟩ := reminderTable_eq_ok_iff.mp h
  exact reminderTable_eq_ok_iff.mpr ⟨_, tables_commit htables _, rfl⟩

theorem taskTable_putTasks {table : TaskTable} (h : disk.taskTable c = .ok table)
    (after : TaskTable) : (disk.putTasks c after).taskTable c = .ok after := by
  obtain ⟨tables, htables, -⟩ := taskTable_eq_ok_iff.mp h
  exact taskTable_eq_ok_iff.mpr ⟨_, tables_commit htables _, rfl⟩

section

variable {α : Type} {e : Error}

theorem changeTasks_of_error {f : TaskTable → Except Error (α × TaskTable)}
    (h : (disk.changeTasks c f).1 = .error e) : (disk.changeTasks c f).2 = disk := by
  unfold changeTasks at h ⊢
  split at h
  · split at h
    · cases h
    · rw [if_neg ‹_›]
  · rfl

theorem changeReminders_of_error {f : ReminderTable → Except Error (α × ReminderTable)}
    (h : (disk.changeReminders c f).1 = .error e) : (disk.changeReminders c f).2 = disk := by
  unfold changeReminders at h ⊢
  split at h
  · split at h
    · cases h
    · rw [if_neg ‹_›]
  · rfl

theorem changeReminders_eq_ok_iff {f : ReminderTable → Except Error (α × ReminderTable)} {a : α}
    {after : Disk} :
    disk.changeReminders c f = (.ok a, after) ↔
      ∃ table changed, disk.reminderTable c = .ok table ∧ c.writable = true ∧
        disk.canCommit c = true ∧ f table = .ok (a, changed) ∧
        after = disk.putReminders c changed := by
  unfold changeReminders queryReminders ifWritable
  cases disk.reminderTable c with
  | error fault =>
      refine ⟨?_, fun ⟨_, _, h, _⟩ => nomatch h⟩
      rintro ⟨⟩
  | ok table =>
      cases c.writable with
      | false =>
          refine ⟨?_, fun ⟨_, _, _, h, _⟩ => nomatch h⟩
          rintro ⟨⟩
      | true =>
          constructor
          · intro h
            dsimp only [if_true] at h
            split at h
            · split at h
              · rename_i changed hf hcommit
                cases h
                exact ⟨table, changed, rfl, rfl, hcommit, hf, rfl⟩
              · cases h
            · cases h
          · rintro ⟨_, changed, ⟨⟩, -, hcommit, hf, rfl⟩
            simp only [if_true, hf, hcommit]

end

end Daybook.Disk
