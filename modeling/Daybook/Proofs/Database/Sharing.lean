import Daybook.Proofs.Database.Founding

namespace Daybook.Disk

/-- A database is found whole at a place: the body is there, and so is the log as long as there are
users. The journal is not that of another database. -/
structure HasDatabase (disk : Disk) (number : Nat) (place : Place) (db : Database) : Prop where
  body : ∃ bytes, disk.find? place = some (.part number .body true bytes)
  journal : disk.HasNoPart (journalPlace place)
  database : disk.database? number = some db
  home : db.home = some place
  reach : db.log ≠ .remainder
  open_log : db.isOpen = true →
    db.logged = true ∧ disk.find? (logPlace place) = some (.part number .log true [])
  issued : number < disk.issued

structure InUse (disk : Disk) (number : Nat) (place : Place) (db : Database) : Prop extends
    HasDatabase disk number place db where
  users : 0 < db.users

/-- One database has changed, and no file. -/
structure Amends (disk after : Disk) (number : Nat) : Prop where
  find : ∀ there, after.find? there = disk.find? there
  database : ∀ other, other ≠ number → after.database? other = disk.database? other
  issued : after.issued = disk.issued

variable {disk after : Disk} {number : Nat} {place : Place} {db new : Database} {c : Connection}

namespace Amends

theorem refl (disk : Disk) (number : Nat) : disk.Amends disk number :=
  ⟨fun _ => rfl, fun _ _ => rfl, rfl⟩

theorem trans {last : Disk} (h : disk.Amends after number) (h' : after.Amends last number) :
    disk.Amends last number where
  find there := (h'.find there).trans (h.find there)
  database other hother := (h'.database other hother).trans (h.database other hother)
  issued := h'.issued.trans h.issued

theorem putDatabase (disk : Disk) (number : Nat) (db : Database) :
    disk.Amends (disk.putDatabase number db) number where
  find _ := rfl
  database _ hother := database?_putDatabase_of_ne disk db hother
  issued := rfl

theorem put_same {entry : Entry} (h : disk.find? place = some entry) (hne : place ≠ [])
    (number : Nat) : disk.Amends (disk.put place entry) number where
  find there := by
    by_cases hthere : there = place
    · rw [hthere, find?_put_self disk place entry hne, h]
    · exact find?_put_of_ne disk entry hthere
  database _ _ := rfl
  issued := rfl

theorem keepsDirectories (h : disk.Amends after number) : disk.KeepsDirectories after :=
  fun there hthere => (h.find there).trans hthere

theorem touches (h : disk.Amends after number) (place : Place) :
    disk.Touches after number place where
  find there _ := h.find there
  database := h.database
  issued := Nat.le_of_eq h.issued.symm
  directories := h.keepsDirectories

theorem hasNoPart (h : disk.Amends after number) {there : Place} (hpart : disk.HasNoPart there) :
    after.HasNoPart there := by
  intro n part intact bytes hfind
  rw [h.find] at hfind
  exact hpart n part intact bytes hfind

end Amends

namespace HasDatabase

theorem ne_nil (h : disk.HasDatabase number place db) : place ≠ [] := by
  rintro rfl
  obtain ⟨bytes, hbody⟩ := h.body
  cases hbody

theorem frame (h : disk.HasDatabase number place db)
    (hfind : ∀ there ∈ family place, after.find? there = disk.find? there)
    (hdatabase : after.database? number = disk.database? number)
    (hissued : disk.issued ≤ after.issued) : after.HasDatabase number place db where
  body := by
    rw [hfind place (by simp [family])]
    exact h.body
  journal n part intact bytes hpart := by
    rw [hfind _ (by simp [family])] at hpart
    exact h.journal n part intact bytes hpart
  database := hdatabase.trans h.database
  home := h.home
  reach := h.reach
  open_log hopen := by
    rw [hfind _ (by simp [family])]
    exact h.open_log hopen
  issued := Nat.lt_of_lt_of_le h.issued hissued

end HasDatabase

/-- What stands where the journal would be keeps others from entering a database in use. -/
def journalFault? (disk : Disk) (place : Place) : Option DatabaseFault :=
  match disk.find? (journalPlace place) with
  | some .directory => some .diskFault
  | some (.file bytes) => if bytes.head?.getD 0 = 0 then none else some .locked
  | some (.part _ _ _ _) | none => none

namespace InUse

theorem isOpen (h : disk.InUse number place db) : db.isOpen = true := decide_eq_true h.users

theorem logged (h : disk.InUse number place db) : db.logged = true := (h.open_log h.isOpen).1

theorem log (h : disk.InUse number place db) :
    disk.find? (logPlace place) = some (.part number .log true []) := (h.open_log h.isOpen).2

theorem amend (h : disk.InUse number place db) (hamends : disk.Amends after number)
    (hnew : after.database? number = some new) (hhome : new.home = db.home)
    (hlogged : new.logged = db.logged) (hreach : new.log ≠ .remainder) (husers : 0 < new.users) :
    after.InUse number place new where
  body := by
    rw [hamends.find]
    exact h.body
  journal := hamends.hasNoPart h.journal
  database := hnew
  home := hhome.trans h.home
  reach := hreach
  open_log _ := ⟨hlogged.trans h.logged, (hamends.find _).trans h.log⟩
  issued := hamends.issued ▸ h.issued
  users := husers

theorem frame (h : disk.InUse number place db) {n : Nat} (hamends : disk.Amends after n)
    (hne : number ≠ n) : after.InUse number place db where
  toHasDatabase := h.toHasDatabase.frame (fun there _ => hamends.find there)
    (hamends.database number hne) (Nat.le_of_eq hamends.issued.symm)
  users := h.users

theorem hasOverwrittenLog (h : disk.InUse number place db) :
    disk.hasOverwrittenLog number db = false := by
  simp [Disk.hasOverwrittenLog, h.home, isOverwritten, h.log]

theorem tables (h : disk.InUse c.number place db) : disk.tables c = .ok db.tables := by
  obtain ⟨bytes, hbody⟩ := h.body
  refine tables_eq_ok_iff.mpr ⟨db, h.database, rfl, ?_, ?_⟩
  · simp [isDamaged, h.home, isOverwritten, isBuried, hbody]
  · rw [h.hasOverwrittenLog, Bool.and_false]

theorem canCommit (h : disk.InUse c.number place db) : disk.canCommit c = true := by
  simp [Disk.canCommit, h.database, hasLostBody, h.home, h.logged]

theorem commit (h : disk.InUse c.number place db) (change : Tables → Tables) :
    ∃ new, (disk.commit c change).InUse c.number place new ∧ new.tables = change db.tables ∧
      new.users = db.users ∧ disk.Amends (disk.commit c change) c.number := by
  let new : Database := { db with tables := change db.tables, log := db.reachAfter false }
  have hreach : new.log ≠ .remainder := Database.reachAfter_ne_remainder h.reach
  have hcommit : disk.commit c change =
      (disk.putDatabase c.number new).put (logPlace place) (.part c.number .log true []) := by
    have hrecord : db.commit (change db.tables) false = new := by
      rw [Database.commit, if_pos h.logged]
    have hlog : (disk.putDatabase c.number new).holdsPart c.number .log (logPlace place) = true := by
      simp [holdsPart, h.log]
    have hhome : new.home = some place := h.home
    simp only [Disk.commit, h.database, h.hasOverwrittenLog, hrecord, refreshLog, hhome, hlog,
      if_true]
  rw [hcommit]
  have hput := Amends.putDatabase disk c.number new
  have hlog : (disk.putDatabase c.number new).find? (logPlace place) =
      some (.part c.number .log true []) := h.log
  have hamends := hput.trans (.put_same hlog (logPlace_ne_nil h.ne_nil) c.number)
  exact ⟨new, h.amend hamends (database?_putDatabase_self disk c.number new) rfl rfl hreach h.users,
    rfl, rfl, hamends⟩

theorem isInUse (h : disk.InUse number place db) : disk.isInUse place = true := by
  obtain ⟨bytes, hbody⟩ := h.body
  simp [Disk.isInUse, hbody, h.database, h.isOpen]

theorem clearJournal (h : disk.InUse number place db) :
    disk.clearJournal place =
      match disk.journalFault? place with
      | some fault => (.error fault, disk)
      | none => (.ok (), disk) := by
  unfold Disk.clearJournal journalFault?
  cases hfind : disk.find? (journalPlace place) with
  | none => rfl
  | some entry =>
      cases entry with
      | directory => rfl
      | file bytes =>
          rw [h.isInUse]
          by_cases hfirst : bytes.head?.getD 0 = 0 <;> simp [bytes?, hfirst]
      | part n part intact bytes => exact absurd hfind (h.journal n part intact bytes)

theorem share (h : disk.InUse number place db) (site : Site) (bytes : List UInt8) :
    disk.share number db place true bytes ⟨site, .create, .logged⟩ =
      (.ok ⟨number, true⟩, disk.putDatabase number db.enter) := by
  have hlog : disk.hasOwnLog number place = true := by
    simp [hasOwnLog, holdsPart, isOverwritten, h.log]
  have hreach : (db.log == .remainder) = false := beq_eq_false_iff_ne.mpr h.reach
  rw [Disk.share, hlog, hreach]
  simp [connection]

/-- Another program enters a database in use by its path, unless its journal stands in the way. -/
theorem visit (h : disk.InUse number place db) {path : String} (hplain : Address.IsPlain path)
    (hbody : disk.bodyPlace? path = some place) :
    disk.visit path =
      match disk.journalFault? place with
      | some fault => (.error fault, disk)
      | none => (.ok (some ⟨number, true⟩), disk.putDatabase number db.enter) := by
  obtain ⟨bytes, hpart⟩ := h.body
  have hmanner : ((⟨.file path, .create, .logged⟩ : Address).manner == .frozen) = false := rfl
  rw [visit_of_body hplain hbody hpart]
  unfold Disk.enter
  rw [hmanner, if_neg Bool.false_ne_true, h.clearJournal]
  cases disk.journalFault? place with
  | some fault => rfl
  | none => simp only [hpart, h.database, Bool.false_eq_true, if_false, h.isOpen, if_true, h.share]

/-- Who leaves a database to others leaves its files as they are. -/
theorem disconnect (h : disk.InUse c.number place db) (hothers : 1 < db.users) :
    disk.disconnect c = disk.putDatabase c.number db.leave := by
  have hopen : db.leave.isOpen = true := by
    have husers : 0 < db.users - 1 := by omega
    exact decide_eq_true husers
  simp only [Disk.disconnect, h.database, hopen, Bool.true_or, if_true]

theorem enter (h : disk.InUse number place db) :
    (disk.putDatabase number db.enter).InUse number place db.enter :=
  h.amend (.putDatabase disk number db.enter) (database?_putDatabase_self disk number db.enter) rfl
    rfl h.reach (Nat.succ_pos _)

theorem leave (h : disk.InUse number place db) (hothers : 1 < db.users) :
    (disk.putDatabase number db.leave).InUse number place db.leave := by
  have husers : 0 < db.users - 1 := by omega
  exact h.amend (.putDatabase disk number db.leave) (database?_putDatabase_self disk number db.leave)
    rfl rfl h.reach husers

end InUse

/-- A table of a database: how it is read and changed on the disk, and where it is among the tables. -/
structure Slot (τ : Type) where
  read : Disk → Connection → Except DatabaseFault τ
  put : Disk → Connection → τ → Disk
  get : Tables → Option τ
  set : τ → Tables → Tables
  read_eq : ∀ {disk c tables table}, Disk.tables disk c = .ok tables → get tables = some table →
    read disk c = .ok table
  put_eq : ∀ disk c table, put disk c table = commit disk c (set table)
  set_get : ∀ {tables table}, get tables = some table → set table tables = tables

def taskSlot : Slot TaskTable where
  read := taskTable
  put := putTasks
  get := Tables.tasks
  set table tables := { tables with tasks := some table }
  read_eq htables htable := taskTable_eq_ok_iff.mpr ⟨_, htables, htable⟩
  put_eq _ _ _ := rfl
  set_get := by
    rintro ⟨_, _⟩ _ ⟨⟩
    rfl

def reminderSlot : Slot ReminderTable where
  read := reminderTable
  put := putReminders
  get := Tables.reminders
  set table tables := { tables with reminders := some table }
  read_eq htables htable := reminderTable_eq_ok_iff.mpr ⟨_, htables, htable⟩
  put_eq _ _ _ := rfl
  set_get := by
    rintro ⟨_, _⟩ _ ⟨⟩
    rfl

section Tables

variable {τ α : Type} {table : τ}

/-- What a change of a table by one of its users yields, and the table after it. -/
def changed (c : Connection) (f : τ → Except Error (α × τ)) (table : τ) : Except Error α × τ :=
  match ifWritable c (f table) with
  | .ok (a, next) => (.ok a, next)
  | .error e => (.error e, table)

/-- What a change of a table by another program yields, and the table after it. The program may be
kept out, and writes nothing when no row is changed. -/
def edited (kept : Option DatabaseFault) (f : τ → Except DatabaseFault (Nat × τ)) (table : τ) :
    Except DatabaseFault Nat × τ :=
  match kept with
  | some fault => (.error fault, table)
  | none =>
      match f table with
      | .error fault => (.error fault, table)
      | .ok (0, _) => (.ok 0, table)
      | .ok (n + 1, next) => (.ok (n + 1), next)

namespace InUse

theorem put (h : disk.InUse c.number place db) (slot : Slot τ) (table : τ) :
    ∃ new, (slot.put disk c table).InUse c.number place new ∧
      new.tables = slot.set table db.tables ∧ new.users = db.users ∧
      disk.Amends (slot.put disk c table) c.number := by
  rw [slot.put_eq]
  exact h.commit (slot.set table)

theorem changeTasks (h : disk.InUse c.number place db) {table : TaskTable}
    (htable : db.tables.tasks = some table) (f : TaskTable → Except Error (α × TaskTable)) :
    ∃ new, (disk.changeTasks c f).1 = (changed c f table).1 ∧
      (disk.changeTasks c f).2.InUse c.number place new ∧
      new.tables = taskSlot.set (changed c f table).2 db.tables ∧
      disk.Amends (disk.changeTasks c f).2 c.number := by
  have hread : disk.taskTable c = .ok table := taskSlot.read_eq h.tables htable
  unfold Disk.changeTasks changed
  rw [queryTasks, hread]
  dsimp only
  cases ifWritable c (f table) with
  | error e => exact ⟨db, rfl, h, (taskSlot.set_get htable).symm, Amends.refl disk _⟩
  | ok result =>
      obtain ⟨new, hnew, htables, -, hamends⟩ := h.put taskSlot result.2
      dsimp only
      rw [if_pos h.canCommit]
      exact ⟨new, rfl, hnew, htables, hamends⟩

theorem changeReminders (h : disk.InUse c.number place db) {table : ReminderTable}
    (htable : db.tables.reminders = some table)
    (f : ReminderTable → Except Error (α × ReminderTable)) :
    ∃ new, (disk.changeReminders c f).1 = (changed c f table).1 ∧
      (disk.changeReminders c f).2.InUse c.number place new ∧
      new.tables = reminderSlot.set (changed c f table).2 db.tables ∧
      disk.Amends (disk.changeReminders c f).2 c.number := by
  have hread : disk.reminderTable c = .ok table := reminderSlot.read_eq h.tables htable
  unfold Disk.changeReminders changed
  rw [queryReminders, hread]
  dsimp only
  cases ifWritable c (f table) with
  | error e => exact ⟨db, rfl, h, (reminderSlot.set_get htable).symm, Amends.refl disk _⟩
  | ok result =>
      obtain ⟨new, hnew, htables, -, hamends⟩ := h.put reminderSlot result.2
      dsimp only
      rw [if_pos h.canCommit]
      exact ⟨new, rfl, hnew, htables, hamends⟩

theorem edit (h : disk.InUse number place db) {path : String} (hplain : Address.IsPlain path)
    (hbody : disk.bodyPlace? path = some place) (slot : Slot τ)
    (htable : slot.get db.tables = some table) (name : String)
    (f : τ → Except DatabaseFault (Nat × τ)) :
    ∃ new, (disk.edit path name slot.read slot.put f).1 =
        (edited (disk.journalFault? place) f table).1 ∧
      (disk.edit path name slot.read slot.put f).2.InUse number place new ∧
      new.tables = slot.set (edited (disk.journalFault? place) f table).2 db.tables ∧
      disk.Amends (disk.edit path name slot.read slot.put f).2 number := by
  have hsame := (slot.set_get htable).symm
  unfold Disk.edit edited
  rw [h.visit hplain hbody]
  cases disk.journalFault? place with
  | some fault => exact ⟨db, rfl, h, hsame, Amends.refl disk _⟩
  | none =>
      let c : Connection := ⟨number, true⟩
      let entered := disk.putDatabase number db.enter
      have henter : entered.InUse c.number place db.enter := h.enter
      have hothers : 1 < db.enter.users := Nat.succ_lt_succ h.users
      have hread : slot.read entered c = .ok table := slot.read_eq henter.tables htable
      have hamends : disk.Amends entered number := .putDatabase disk number db.enter
      have hleft := henter.leave hothers
      have hleave := hamends.trans (.putDatabase entered number db.enter.leave)
      rw [← henter.disconnect hothers] at hleft hleave
      dsimp only
      rw [hread]
      simp only [bind, Except.bind, if_true]
      cases f table with
      | error fault => exact ⟨_, rfl, hleft, hsame, hleave⟩
      | ok result =>
          obtain ⟨n, next⟩ := result
          cases n with
          | zero => exact ⟨_, rfl, hleft, hsame, hleave⟩
          | succ n =>
              obtain ⟨new, hnew, htables, husers, hput⟩ := henter.put slot next
              rw [← husers] at hothers
              have hlast := hnew.leave hothers
              have hdone := (hamends.trans hput).trans (.putDatabase _ number new.leave)
              rw [← hnew.disconnect hothers] at hlast hdone
              exact ⟨_, rfl, hlast, htables, hdone⟩

end InUse

end Tables

end Daybook.Disk
