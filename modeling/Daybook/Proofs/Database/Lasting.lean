import Daybook.Database.Visit
import Daybook.Proofs.Database.Commit
import Daybook.Proofs.Disk.Files

namespace Daybook

variable {A : TaskTable → Prop} {B : ReminderTable → Prop}

/-- The tables that are there are such ones. -/
structure Tables.All (A : TaskTable → Prop) (B : ReminderTable → Prop) (tables : Tables) : Prop where
  tasks : ∀ table, tables.tasks = some table → A table
  reminders : ∀ table, tables.reminders = some table → B table

structure Database.All (A : TaskTable → Prop) (B : ReminderTable → Prop) (db : Database) :
    Prop where
  tables : db.tables.All A B
  saved : db.saved.All A B

/-- The tables of all databases are such ones, as their users see them and as their bodies hold them. -/
def Disk.All (A : TaskTable → Prop) (B : ReminderTable → Prop) (disk : Disk) : Prop :=
  ∀ pair ∈ disk.databases, pair.2.All A B

theorem Tables.all_empty : Tables.empty.All A B := ⟨nofun, nofun⟩

theorem Tables.All.setTasks {tables : Tables} (h : tables.All A B) {table : TaskTable}
    (htable : A table) : Tables.All A B { tables with tasks := some table } := by
  refine ⟨?_, h.reminders⟩
  rintro _ ⟨⟩
  exact htable

theorem Tables.All.setReminders {tables : Tables} (h : tables.All A B) {table : ReminderTable}
    (htable : B table) : Tables.All A B { tables with reminders := some table } := by
  refine ⟨h.tasks, ?_⟩
  rintro _ ⟨⟩
  exact htable

namespace Database

variable {db : Database}

theorem All.enter (h : db.All A B) : db.enter.All A B := ⟨h.tables, h.saved⟩

theorem All.commit (h : db.All A B) {tables : Tables} (htables : tables.All A B)
    (overwritten : Bool) : (db.commit tables overwritten).All A B := by
  unfold Database.commit
  split
  · exact ⟨htables, h.saved⟩
  · exact ⟨htables, htables⟩

end Database

namespace Disk

variable {disk : Disk}

theorem All.of_databases {after : Disk} (h : disk.All A B)
    (hsame : after.databases = disk.databases) : after.All A B := by
  unfold Disk.All
  rw [hsame]
  exact h

theorem All.of_databases_nil (h : disk.databases = []) : disk.All A B := by
  intro pair hpair
  rw [h] at hpair
  cases hpair

theorem All.of_database? (h : disk.All A B) {number : Nat} {db : Database}
    (hdb : disk.database? number = some db) : db.All A B := by
  obtain ⟨before, after, hsplit, -⟩ := List.lookup_eq_some_iff.mp hdb
  refine h (number, db) ?_
  rw [hsplit]
  exact List.mem_append_right _ List.mem_cons_self

theorem All.putDatabase (h : disk.All A B) (number : Nat) {db : Database}
    (hdb : db.All A B) : (disk.putDatabase number db).All A B := by
  intro pair hpair
  rcases List.mem_cons.mp hpair with rfl | hold
  · exact hdb
  · exact h pair (List.mem_filter.mp hold).1

theorem All.addDatabase (h : disk.All A B) {db : Database} (hdb : db.All A B) :
    (disk.addDatabase db).2.All A B :=
  h.putDatabase disk.issued hdb

theorem All.found (h : disk.All A B) (place : Place) (address : Address) :
    (disk.found place address).2.All A B := by
  have hnew : ∀ {start : Disk}, start.All A B → ∀ {db : Database}, db.tables = .empty →
      db.saved = .empty → (start.addDatabase db).2.All A B := by
    intro start hstart db htables hsaved
    refine hstart.addDatabase ⟨?_, ?_⟩
    · rw [htables]
      exact Tables.all_empty
    · rw [hsaved]
      exact Tables.all_empty
  have hclean : ((disk.erase (journalPlace place)).erase (logPlace place)).All A B := h
  unfold Disk.found
  dsimp only
  split
  · exact h
  · split
    · exact h
    · split
      · exact h
      · split
        · exact h
        · split
          · exact hnew hclean rfl rfl
          · exact (hnew hclean rfl rfl).of_databases (databases_putSides ..)

theorem All.awaken (h : disk.All A B) (number : Nat) {db : Database} (hdb : db.All A B)
    (place : Place) (address : Address) : (disk.awaken number db place address).2.All A B := by
  unfold Disk.awaken
  split
  · split
    · exact h
    · exact h.putDatabase number hdb.enter
  · split
    · exact h
    · have hput : (disk.putDatabase number { db.enter with
          logged := true, under := disk.bodyAt? (logPlace place) }).All A B :=
        h.putDatabase number ⟨hdb.tables, hdb.saved⟩
      exact hput.of_databases (databases_putSides _ number address.manner place)

theorem All.share (h : disk.All A B) (number : Nat) {db : Database} (hdb : db.All A B)
    (place : Place) (intact : Bool) (bytes : List UInt8) (address : Address) :
    (disk.share number db place intact bytes address).2.All A B := by
  unfold Disk.share
  split
  · exact h.of_databases (databases_eraseFile ..)
  · split
    · exact h
    · split
      · exact h
      · split
        · dsimp only
          split <;> exact h
        · split
          · exact h
          · exact h.putDatabase number hdb.enter

theorem All.copy (h : disk.All A B) {db : Database} (hdb : db.All A B) :
    (disk.copy db).2.All A B :=
  h.addDatabase ⟨hdb.saved, hdb.saved⟩

theorem All.revive (h : disk.All A B) (place : Place) (bytes : List UInt8)
    (address : Address) : (disk.revive place bytes address).2.All A B := by
  unfold Disk.revive
  split
  · split
    · rename_i number _ _ _ db hdb
      split
      · have hsame := h.of_database? hdb
        have hput : (disk.put place (.part number .body false bytes)).All A B := h
        have hback : ({ db.enter with home := some place } : Database).All A B :=
          ⟨hsame.tables, hsame.saved⟩
        exact (hput.putDatabase number hback).of_databases (databases_putSides ..)
      · exact h
    · exact h
  · exact h
  · exact h

theorem All.enter (h : disk.All A B) (place : Place) (address : Address) :
    (disk.enter place address).2.All A B := by
  have hclear : ∀ {result : Except DatabaseFault Unit} {after : Disk},
      (if address.manner == .frozen then (.ok (), disk) else disk.clearJournal place) =
        (result, after) → after.All A B := by
    intro result after heq
    split at heq
    · cases heq
      exact h
    · refine h.of_databases ?_
      rw [← databases_clearJournal disk place, heq]
  unfold Disk.enter
  split
  · exact hclear ‹_›
  · have h' := hclear ‹_›
    split
    · split
      · exact h'
      · have hdb := h'.of_database? ‹_›
        split
        · split
          · exact h'.copy hdb
          · exact h'
        · split
          · exact h'.share _ hdb _ _ _ _
          · exact h'.awaken _ hdb _ _
    · exact h'.revive _ _ _
    · exact h'

theorem All.of_sharedUnder? (h : disk.All A B) {name : Option String} {number : Nat}
    {db : Database} (hshared : name.bind disk.sharedUnder? = some (number, db)) : db.All A B := by
  obtain ⟨text, -, hfind⟩ := Option.bind_eq_some_iff.mp hshared
  exact h _ (List.mem_of_find?_eq_some hfind)

theorem All.enterMemory (h : disk.All A B) (name : Option String) (address : Address) :
    (disk.enterMemory name address).2.All A B := by
  unfold Disk.enterMemory
  split
  · exact h.putDatabase _ (h.of_sharedUnder? ‹_›).enter
  · exact h.addDatabase ⟨Tables.all_empty, Tables.all_empty⟩

theorem All.connect (h : disk.All A B) (path : String) :
    (disk.connect path).2.All A B := by
  unfold Disk.connect
  split
  · exact h
  · rename_i address _
    split
    · exact h.enterMemory _ _
    · have hreach : ∀ {filePath result after},
          disk.reach path filePath address.access = (result, after) → after.All A B := by
        intro filePath result after heq
        refine h.of_databases ?_
        rw [← databases_reach disk path filePath address.access, heq]
      split
      · exact hreach ‹_›
      · split
        · exact (hreach ‹_›).found _ _
        · exact (hreach ‹_›).enter _ _

theorem All.settle (h : disk.All A B) (number : Nat) {db : Database} (hdb : db.All A B)
    (place : Place) (intact : Bool) (bytes : List UInt8) :
    (disk.settle number db place intact bytes).All A B := by
  have hput : ∀ {start : Disk}, start.All A B →
      (if intact then start else start.put place (.file bytes)).All A B := by
    intro start hstart
    split <;> exact hstart
  have hclear : ∀ {start : Disk}, start.All A B → (start.clearSides place).All A B :=
    fun hstart => hstart.of_databases (databases_clearSides ..)
  unfold Disk.settle
  dsimp only
  split
  · split
    · exact hclear (hput h)
    · exact hput h
  · exact hclear h
  · split
    · refine All.putDatabase ?_ number ⟨hdb.saved, hdb.saved⟩
      exact All.of_databases (hput h) rfl
    · split
      · refine hclear (All.putDatabase ?_ number ⟨hdb.tables, hdb.tables⟩)
        exact h
      · exact hclear h

theorem All.disconnect (h : disk.All A B) (c : Connection) :
    (disk.disconnect c).All A B := by
  unfold Disk.disconnect
  split
  · exact h
  · rename_i db hdb
    have hleave : db.leave.All A B :=
      ⟨(h.of_database? hdb).tables, (h.of_database? hdb).saved⟩
    have h' := h.putDatabase c.number hleave
    dsimp only
    split
    · exact h'
    · split
      · split
        · exact h'.settle _ hleave _ _ _
        · exact h'
      · exact h'

theorem All.commit (h : disk.All A B) (c : Connection) {change : Tables → Tables}
    (hchange : ∀ db, disk.database? c.number = some db → (change db.tables).All A B) :
    (disk.commit c change).All A B := by
  unfold Disk.commit
  split
  · exact h
  · rename_i db hdb
    have hcommit := (h.of_database? hdb).commit (hchange db hdb)
      (disk.hasOverwrittenLog c.number db)
    exact (h.putDatabase c.number hcommit).of_databases (databases_refreshLog ..)

theorem All.putTasks (h : disk.All A B) (c : Connection) {table : TaskTable} (htable : A table) :
    (disk.putTasks c table).All A B :=
  h.commit c fun _ hdb => (h.of_database? hdb).tables.setTasks htable

theorem All.putReminders (h : disk.All A B) (c : Connection) {table : ReminderTable}
    (htable : B table) : (disk.putReminders c table).All A B :=
  h.commit c fun _ hdb => (h.of_database? hdb).tables.setReminders htable

theorem All.openWith (h : disk.All A B) (path : String) (lacks : Tables → Bool)
    {add : Tables → Tables} (hadd : ∀ tables, tables.All A B → (add tables).All A B) :
    (disk.openWith path lacks add).2.All A B := by
  have hparent : (disk.ensureParent path).2.All A B :=
    h.of_databases (gainsDirectories_ensureParent disk path).databases
  unfold Disk.openWith
  split
  · rename_i after heq
    rw [heq] at hparent
    exact hparent
  · rename_i after heq
    rw [heq] at hparent
    have hconnect := hparent.connect path
    split
    · rename_i last hlast
      rw [hlast] at hconnect
      exact hconnect
    · rename_i c last hlast
      rw [hlast] at hconnect
      split
      · exact hconnect.disconnect c
      · split
        · exact hconnect
        · split
          · exact hconnect.commit c fun _ hdb =>
              hadd _ (hconnect.of_database? hdb).tables
          · exact hconnect.disconnect c

theorem All.openTasks (h : disk.All A B) (hempty : A .empty) (path : String) :
    (disk.openTasks path).2.All A B :=
  h.openWith path _ fun _ htables => htables.setTasks hempty

theorem All.openReminders (h : disk.All A B) (hempty : B .empty) (path : String) :
    (disk.openReminders path).2.All A B :=
  h.openWith path _ fun _ htables => htables.setReminders hempty

theorem All.of_tables (h : disk.All A B) {c : Connection} {tables : Tables}
    (htables : disk.tables c = .ok tables) : tables.All A B := by
  obtain ⟨db, hdb, rfl, -⟩ := tables_eq_ok_iff.mp htables
  exact (h.of_database? hdb).tables

theorem All.of_taskTable (h : disk.All A B) {c : Connection} {table : TaskTable}
    (htable : disk.taskTable c = .ok table) : A table := by
  obtain ⟨tables, htables, hsome⟩ := taskTable_eq_ok_iff.mp htable
  exact (h.of_tables htables).tasks table hsome

theorem All.of_reminderTable (h : disk.All A B) {c : Connection} {table : ReminderTable}
    (htable : disk.reminderTable c = .ok table) : B table := by
  obtain ⟨tables, htables, hsome⟩ := reminderTable_eq_ok_iff.mp htable
  exact (h.of_tables htables).reminders table hsome

theorem All.changeTasks (h : disk.All A B) (c : Connection) {α : Type}
    {f : TaskTable → Except Error (α × TaskTable)}
    (hf : ∀ table a after, A table → f table = .ok (a, after) → A after) :
    (disk.changeTasks c f).2.All A B := by
  unfold Disk.changeTasks
  split
  · rename_i a after hquery
    split
    · refine h.putTasks c ?_
      unfold queryTasks at hquery
      split at hquery
      · unfold ifWritable at hquery
        split at hquery
        · exact hf _ a after (h.of_taskTable ‹_›) hquery
        · cases hquery
      · cases hquery
    · exact h
  · exact h

theorem All.changeReminders (h : disk.All A B) (c : Connection) {α : Type}
    {f : ReminderTable → Except Error (α × ReminderTable)}
    (hf : ∀ table a after, B table → f table = .ok (a, after) → B after) :
    (disk.changeReminders c f).2.All A B := by
  unfold Disk.changeReminders
  split
  · rename_i a after hquery
    split
    · refine h.putReminders c ?_
      unfold queryReminders at hquery
      split at hquery
      · unfold ifWritable at hquery
        split at hquery
        · exact hf _ a after (h.of_reminderTable ‹_›) hquery
        · cases hquery
      · cases hquery
    · exact h
  · exact h

theorem All.visit (h : disk.All A B) (path : String) : (disk.visit path).2.All A B := by
  unfold Disk.visit
  split
  · exact h
  · rename_i address _
    split
    · split
      · exact h.putDatabase _ (h.of_sharedUnder? ‹_›).enter
      · exact h
    · rename_i filePath _
      have hreach : (disk.reach path filePath address.access).2.All A B :=
        h.of_databases (databases_reach disk path filePath address.access)
      split
      · rename_i heq
        rw [heq] at hreach
        exact hreach
      · rename_i place after heq
        rw [heq] at hreach
        split
        · exact hreach.of_databases (databases_eraseFile ..)
        · have henter := hreach.enter place address
          split <;> rename_i heq <;> rwa [heq] at henter

theorem All.edit (h : disk.All A B) (path name : String) {τ : Type}
    {table : Disk → Connection → Except DatabaseFault τ} {put : Disk → Connection → τ → Disk}
    {f : τ → Except DatabaseFault (Nat × τ)}
    (hput : ∀ {start c found n after}, start.All A B → table start c = .ok found →
      f found = .ok (n, after) → (put start c after).All A B) :
    (disk.edit path name table put f).2.All A B := by
  have hvisit := h.visit path
  unfold Disk.edit
  split
  · rename_i heq
    rw [heq] at hvisit
    exact hvisit
  · rename_i heq
    rw [heq] at hvisit
    exact hvisit
  · rename_i c start heq
    rw [heq] at hvisit
    dsimp only
    split
    · exact hvisit.disconnect c
    · exact hvisit.disconnect c
    · rename_i n after _ hresult
      refine All.disconnect ?_ c
      obtain ⟨found, hfound, hchanged⟩ := bind_eq_ok_iff.mp hresult
      split at hchanged
      · exact hput hvisit hfound hchanged
      · cases hchanged

theorem All.editTasks (h : disk.All A B) (path : String)
    {f : TaskTable → Except DatabaseFault (Nat × TaskTable)}
    (hf : ∀ table n after, A table → f table = .ok (n, after) → A after) :
    (disk.editTasks path f).2.All A B :=
  h.edit path "tasks" fun hstart hfound hafter =>
    hstart.putTasks _ (hf _ _ _ (hstart.of_taskTable hfound) hafter)

theorem All.editReminders (h : disk.All A B) (path : String)
    {f : ReminderTable → Except DatabaseFault (Nat × ReminderTable)}
    (hf : ∀ table n after, B table → f table = .ok (n, after) → B after) :
    (disk.editReminders path f).2.All A B :=
  h.edit path "reminders" fun hstart hfound hafter =>
    hstart.putReminders _ (hf _ _ _ (hstart.of_reminderTable hfound) hafter)

end Disk

end Daybook
