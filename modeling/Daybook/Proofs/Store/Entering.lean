import Daybook.Proofs.Database.Sharing
import Daybook.Proofs.Store.Opening

namespace Daybook

namespace Disk

/-- What belongs to a database at a place is a whole database or no part of any. -/
def IsSound (disk : Disk) (place : Place) : Prop :=
  (∀ there ∈ family place, disk.HasNoPart there) ∨ ∃ number db, disk.HasDatabase number place db

variable {disk after : Disk} {path : String} {c : Connection} {number n : Nat} {place there : Place}
  {db other : Database}

theorem HasNoPart.touch (h : disk.HasNoPart there) (htouches : disk.Touches after n place)
    (hapart : there ∉ family place) : after.HasNoPart there := by
  intro number part intact bytes hpart
  rw [htouches.find there hapart] at hpart
  exact h number part intact bytes hpart

theorem Stands.inUse_of_isOpen (h : disk.Stands number place db) (hopen : db.isOpen = true) :
    disk.InUse number place db where
  body := ⟨[], h.body⟩
  journal := by
    intro n part intact bytes hpart
    rw [h.journal] at hpart
    cases hpart
  database := h.database
  home := h.home
  reach := h.reach
  open_log := fun hopen => ⟨h.logged, h.inUse hopen⟩
  issued := h.issued
  users := of_decide_eq_true hopen

namespace HasDatabase

theorem gain (h : disk.HasDatabase number place db) (hgains : disk.GainsDirectories after) :
    after.HasDatabase number place db := by
  have hkept : ∀ {there : Place} {entry : Entry}, disk.find? there = some entry →
      after.find? there = some entry := by
    intro there entry hentry
    rcases hgains.find there with hsame | ⟨hnone, -⟩
    · exact hsame.trans hentry
    · rw [hentry] at hnone
      cases hnone
  obtain ⟨bytes, hbody⟩ := h.body
  refine ⟨⟨bytes, hkept hbody⟩, h.journal.gain hgains, ?_, h.home, h.reach, ?_, ?_⟩
  · rw [database?, hgains.databases]
    exact h.database
  · intro hopen
    exact ⟨(h.open_log hopen).1, hkept (h.open_log hopen).2⟩
  · rw [hgains.issued]
    exact h.issued

theorem touch (h : disk.HasDatabase number place db) (htouches : disk.Touches after n there)
    (hne : number ≠ n) (hplaces : ∀ other ∈ family place, other ∉ family there) :
    after.HasDatabase number place db :=
  h.frame (fun other hother => htouches.find other (hplaces other hother))
    (htouches.database number hne) htouches.issued

theorem number_ne (h : disk.HasDatabase number place db) (h' : disk.HasDatabase n there other)
    (hne : place ≠ there) : number ≠ n := by
  rintro rfl
  obtain rfl : db = other := Option.some.inj (h.database.symm.trans h'.database)
  exact hne (Option.some.inj (h.home.symm.trans h'.home))

theorem eraseJournal (h : disk.HasDatabase number place db) :
    (disk.erase (journalPlace place)).HasDatabase number place db := by
  have hne := h.ne_nil
  have hother : ∀ there, there ≠ journalPlace place →
      (disk.erase (journalPlace place)).find? there = disk.find? there :=
    fun there hthere => find?_erase_of_ne disk hthere
  refine ⟨?_, ?_, h.database, h.home, h.reach, ?_, h.issued⟩
  · rw [hother _ (journalPlace_ne hne).symm]
    exact h.body
  · intro number part intact bytes hpart
    rw [find?_erase_self disk (journalPlace_ne_nil hne)] at hpart
    cases hpart
  · rw [hother _ (journalPlace_ne_logPlace hne).symm]
    exact h.open_log

theorem awaken (h : disk.HasDatabase number place db) {site : Site}
    (hawaken : disk.awaken number db place ⟨site, .create, .logged⟩ = (.ok c, after)) :
    c.number = number ∧ (∃ new, after.InUse number place new ∧ new.tables = db.tables) ∧
      disk.Touches after number place := by
  have hne := h.ne_nil
  let new : Database :=
    { db.enter with logged := true, under := disk.bodyAt? (logPlace place) }
  have htouches : disk.Touches ((disk.putDatabase number new).putSides number .logged place) number
      place :=
    (Touches.putDatabase disk number new place).trans (Touches.putSides _ number number place)
  unfold Disk.awaken at hawaken
  dsimp only at hawaken
  split at hawaken
  · rename_i hdirect
    cases hdirect
  · split at hawaken
    · cases hawaken
    · rename_i hdirectory
      have hlog : (disk.putDatabase number new).find? (logPlace place) ≠ some .directory :=
        of_decide_eq_false (Bool.eq_false_iff.mpr hdirectory)
      have hown := find?_putSides_log _ hne hlog number
      cases hawaken
      refine ⟨rfl, ⟨new, ⟨⟨?_, ?_, ?_, h.home, h.reach, fun _ => ⟨rfl, hown⟩, ?_⟩,
        Nat.succ_pos _⟩, rfl⟩, htouches⟩
      · rw [find?_putSides_of_ne _ (logPlace_ne hne).symm (indexPlace_ne hne).symm]
        exact h.body
      · intro n part intact bytes hpart
        rw [find?_putSides_of_ne _ (journalPlace_ne_logPlace hne) (journalPlace_ne_indexPlace hne)]
          at hpart
        exact h.journal n part intact bytes hpart
      · rw [database?_putSides]
        exact database?_putDatabase_self disk number new
      · exact Nat.lt_of_lt_of_le h.issued htouches.issued

theorem enter (h : disk.HasDatabase number place db) {site : Site}
    (henter : disk.enter place ⟨site, .create, .logged⟩ = (.ok c, after)) :
    c.number = number ∧ (∃ new, after.InUse number place new ∧ new.tables = db.tables) ∧
      disk.Touches after number place := by
  unfold Disk.enter at henter
  have hmanner : ((⟨site, .create, .logged⟩ : Address).manner == .frozen) = false := rfl
  simp only [hmanner, Bool.false_eq_true, if_false] at henter
  have hclear := clearJournal_cases disk place
  split at henter
  · cases henter
  · rename_i next heq
    rw [heq] at hclear
    have hnext : next.HasDatabase number place db ∧ disk.Touches next number place := by
      rcases hclear with rfl | ⟨hjournal, rfl⟩
      · exact ⟨h, Touches.refl next number place⟩
      · exact ⟨h.eraseJournal, Touches.erase (by simp [family]) hjournal number⟩
    obtain ⟨hnext, hcleared⟩ := hnext
    obtain ⟨bytes, hbody⟩ := hnext.body
    simp only [hbody, hnext.database] at henter
    split at henter
    · rename_i hopen
      have huse : next.InUse number place db := ⟨hnext, of_decide_eq_true hopen⟩
      rw [huse.share] at henter
      cases henter
      exact ⟨rfl, ⟨db.enter, huse.enter, rfl⟩,
        hcleared.trans (Touches.putDatabase next number db.enter place)⟩
    · obtain ⟨hc, huse, htouches⟩ := hnext.awaken henter
      exact ⟨hc, huse, hcleared.trans htouches⟩

theorem connect (h : disk.HasDatabase number place db) (hplain : Address.IsPlain path)
    (hbody : disk.bodyPlace? path = some place) (hconnect : disk.connect path = (.ok c, after)) :
    c.number = number ∧ (∃ new, after.InUse number place new ∧ new.tables = db.tables) ∧
      disk.Touches after number place := by
  obtain ⟨bytes, hpart⟩ := h.body
  rw [connect_of_body hplain hbody hpart] at hconnect
  exact h.enter hconnect

end HasDatabase

theorem InUse.gain (h : disk.InUse number place db) (hgains : disk.GainsDirectories after) :
    after.InUse number place db :=
  ⟨h.toHasDatabase.gain hgains, h.users⟩

theorem InUse.touch (h : disk.InUse number place db) (htouches : disk.Touches after n there)
    (hne : number ≠ n) (hplaces : ∀ other ∈ family place, other ∉ family there) :
    after.InUse number place db :=
  ⟨h.toHasDatabase.touch htouches hne hplaces, h.users⟩

/-- The database that is entered at a place, and its tables: the one that is found there, or a new
one. -/
def Awaits (disk : Disk) (place : Place) (number : Nat) (tables : Tables) : Prop :=
  (∃ db, disk.HasDatabase number place db ∧ db.tables = tables) ∨
    ((∀ there ∈ family place, disk.HasNoPart there) ∧ number = disk.issued ∧ tables = .empty)

theorem IsSound.exists_awaits (h : disk.IsSound place) :
    ∃ number tables, disk.Awaits place number tables := by
  rcases h with hparts | ⟨number, db, hdb⟩
  · exact ⟨disk.issued, .empty, Or.inr ⟨hparts, rfl, rfl⟩⟩
  · exact ⟨number, db.tables, Or.inl ⟨db, hdb, rfl⟩⟩

theorem IsSound.gain (h : disk.IsSound place) (hgains : disk.GainsDirectories after) :
    after.IsSound place := by
  rcases h with hparts | ⟨number, db, hdb⟩
  · exact Or.inl fun there hthere => (hparts there hthere).gain hgains
  · exact Or.inr ⟨number, db, hdb.gain hgains⟩

theorem IsSound.touch (h : disk.IsSound place) (htouches : disk.Touches after n there)
    (hne : ∀ {number db}, disk.HasDatabase number place db → number ≠ n)
    (hplaces : ∀ other ∈ family place, other ∉ family there) : after.IsSound place := by
  rcases h with hparts | ⟨number, db, hdb⟩
  · exact Or.inl fun other hother => (hparts other hother).touch htouches (hplaces other hother)
  · exact Or.inr ⟨number, db, hdb.touch htouches (hne hdb) hplaces⟩

namespace Awaits

variable {tables : Tables}

theorem gain (h : disk.Awaits place number tables) (hgains : disk.GainsDirectories after) :
    after.Awaits place number tables := by
  rcases h with ⟨db, hdb, htables⟩ | ⟨hparts, hnumber, htables⟩
  · exact Or.inl ⟨db, hdb.gain hgains, htables⟩
  · exact Or.inr ⟨fun there hthere => (hparts there hthere).gain hgains,
      hnumber.trans hgains.issued.symm, htables⟩

theorem number_ne (h : disk.Awaits place number tables) (h' : disk.HasDatabase n there other)
    (hne : place ≠ there) : number ≠ n := by
  rcases h with ⟨db, hdb, -⟩ | ⟨-, rfl, -⟩
  · exact hdb.number_ne h' hne
  · exact (Nat.ne_of_lt h'.issued).symm

theorem connect (h : disk.Awaits place number tables) (hplain : Address.IsPlain path)
    (hbody : disk.bodyPlace? path = some place) (hconnect : disk.connect path = (.ok c, after)) :
    c.number = number ∧ disk.find? place ≠ some .directory ∧
      (∃ new, after.InUse number place new ∧ new.tables = tables) ∧
      disk.Touches after number place := by
  rcases h with ⟨db, hdb, rfl⟩ | ⟨hparts, rfl, rfl⟩
  · obtain ⟨hc, huse, htouches⟩ := hdb.connect hplain hbody hconnect
    obtain ⟨bytes, hpart⟩ := hdb.body
    exact ⟨hc, hpart ▸ nofun, huse, htouches⟩
  · obtain ⟨rfl, hdirectory, ⟨db, hdb, hempty, hopen⟩, -, htouches⟩ :=
      connect_eq_ok hplain hbody hparts hconnect
    exact ⟨rfl, hdirectory, ⟨db, hdb.inUse_of_isOpen hopen, hempty⟩, htouches⟩

theorem openWith (h : disk.Awaits (Path.place path) number tables) (hplain : Address.IsPlain path)
    (hwork : disk.find? workingDirectory = some .directory) {lacks : Tables → Bool}
    {add : Tables → Tables} (hopen : disk.openWith path lacks add = (.ok c, after)) :
    ∃ start new, disk.GainsDirectories start ∧ start.Leads path (Path.place path) ∧
      c.number = number ∧ after.InUse number (Path.place path) new ∧
      new.tables = (if lacks tables then add tables else tables) ∧
      start.Touches after number (Path.place path) := by
  obtain ⟨start, mid, found, hgains, hparent, hconnect, htables, rfl⟩ := openWith_eq_ok hopen
  have hbody := bodyPlace?_of_connect hplain hconnect
  obtain ⟨rfl, hdirectory, ⟨entered, huse, rfl⟩, htouches⟩ :=
    (h.gain hgains).connect hplain hbody hconnect
  have hleads := leads_of_bodyPlace? (hgains.keepsDirectories _ hwork) hparent hbody hdirectory
  rw [huse.tables] at htables
  cases htables
  refine ⟨start, ?_⟩
  cases lacks entered.tables with
  | false => exact ⟨entered, hgains, hleads, rfl, huse, rfl, htouches⟩
  | true =>
      obtain ⟨new, hnew, hadd, -, hamends⟩ := huse.commit add
      exact ⟨new, hgains, hleads, rfl, hnew, hadd, htouches.trans (hamends.touches _)⟩

end Awaits

theorem exists_get_of_lacking {τ : Type} (get : Tables → Option τ) (add : Tables → Tables)
    (hadd : ∀ tables, ∃ table, get (add tables) = some table) (tables : Tables) :
    ∃ table, get (if (get tables).isNone then add tables else tables) = some table := by
  cases hget : get tables with
  | none => exact hadd tables
  | some table => exact ⟨table, hget⟩

theorem Awaits.openTasks {tables : Tables} (h : disk.Awaits (Path.place path) number tables)
    (hplain : Address.IsPlain path) (hwork : disk.find? workingDirectory = some .directory)
    (hopen : disk.openTasks path = (.ok c, after)) :
    ∃ start new tasks, disk.GainsDirectories start ∧ start.Leads path (Path.place path) ∧
      c.number = number ∧ after.InUse number (Path.place path) new ∧
      new.tables.tasks = some tasks ∧ start.Touches after number (Path.place path) := by
  obtain ⟨start, new, hgains, hleads, hc, hnew, htables, htouches⟩ := h.openWith hplain hwork hopen
  obtain ⟨tasks, htasks⟩ := exists_get_of_lacking Tables.tasks
    (fun tables => { tables with tasks := some .empty }) (fun _ => ⟨_, rfl⟩) tables
  exact ⟨start, new, tasks, hgains, hleads, hc, hnew, htables ▸ htasks, htouches⟩

/-- A database with tasks that is in use goes on being used while the reminders are opened, in the same
file or apart from it. -/
theorem InUse.openReminders (h : disk.InUse number place db) {tasks : TaskTable}
    (htasks : db.tables.tasks = some tasks) (hplain : Address.IsPlain path)
    (hwork : disk.find? workingDirectory = some .directory)
    (hplaces : place = Path.place path ∨
      (disk.IsSound (Path.place path) ∧ ∀ there ∈ family place, there ∉ family (Path.place path)))
    (hopen : disk.openReminders path = (.ok c, after)) :
    ∃ start db' new reminders, disk.GainsDirectories start ∧
      start.Leads path (Path.place path) ∧ start.Touches after c.number (Path.place path) ∧
      after.InUse number place db' ∧ db'.tables.tasks = some tasks ∧
      after.InUse c.number (Path.place path) new ∧ new.tables.reminders = some reminders := by
  have hadded : ∀ tables : Tables, ∃ reminders, Tables.reminders (if tables.reminders.isNone then
      { tables with reminders := some .empty } else tables) = some reminders :=
    exists_get_of_lacking Tables.reminders
      (fun tables => { tables with reminders := some .empty }) fun _ => ⟨_, rfl⟩
  rcases hplaces with rfl | ⟨hsound, hclear⟩
  · have hawaits : disk.Awaits (Path.place path) number db.tables :=
      Or.inl ⟨db, h.toHasDatabase, rfl⟩
    obtain ⟨start, new, hgains, hleads, rfl, hnew, htables, htouches⟩ :=
      hawaits.openWith hplain hwork hopen
    obtain ⟨reminders, hreminders⟩ := hadded db.tables
    refine ⟨start, new, new, reminders, hgains, hleads, htouches, hnew, ?_, hnew,
      htables ▸ hreminders⟩
    rw [htables]
    split <;> exact htasks
  · obtain ⟨n, tables, hawaits⟩ := hsound.exists_awaits
    obtain ⟨start, new, hgains, hleads, rfl, hnew, htables, htouches⟩ :=
      hawaits.openWith hplain hwork hopen
    obtain ⟨reminders, hreminders⟩ := hadded tables
    have hapart : Path.place path ≠ place := by
      rintro rfl
      exact hclear _ List.mem_cons_self List.mem_cons_self
    have hnumber := hawaits.number_ne h.toHasDatabase hapart
    exact ⟨start, db, new, reminders, hgains, hleads, htouches,
      (h.gain hgains).touch htouches hnumber.symm hclear, htasks, hnew, htables ▸ hreminders⟩

end Disk

namespace Store

open Disk

variable {config : Config} {store : Store} {disk after : Disk}

/-- The tasks are opened before the reminders, whose place stays as sound as it was. -/
theorem isSound_of_openTasks (hfiles : config.HasPlainFiles)
    (hwork : disk.find? workingDirectory = some .directory)
    (htasks : disk.IsSound (Path.place config.tasksPath))
    (hreminders : disk.IsSound (Path.place config.remindersPath)) {c : Connection}
    (hopen : disk.openTasks config.tasksPath = (.ok c, after)) :
    after.IsSound (Path.place config.remindersPath) := by
  obtain ⟨n, tables, hawaits⟩ := htasks.exists_awaits
  obtain ⟨start, new, tasks, hgains, -, rfl, hnew, -, htouches⟩ :=
    hawaits.openTasks hfiles.taskPlain hwork hopen
  rcases hfiles.clear with hsame | hclear
  · exact Or.inr ⟨c.number, new, hsame ▸ hnew.toHasDatabase⟩
  · have hne : Path.place config.tasksPath ≠ Path.place config.remindersPath := by
      intro heq
      exact hclear _ List.mem_cons_self (heq ▸ List.mem_cons_self)
    exact (hreminders.gain hgains).touch htouches
      (fun hdb => ((hawaits.gain hgains).number_ne hdb hne).symm)
      fun there hthere hother => hclear there hother hthere

theorem keepsDirectories_of_openAt (hfiles : config.HasPlainFiles)
    (hwork : disk.find? workingDirectory = some .directory)
    (htasks : disk.IsSound (Path.place config.tasksPath))
    (hreminders : disk.IsSound (Path.place config.remindersPath))
    (hopen : openAt config disk = (.ok store, after)) : disk.KeepsDirectories after := by
  obtain ⟨first, mid, hfirst, -, hopenTasks, hopenReminders, -⟩ := openAt_eq_ok hopen
  have hwork := hfirst.keepsDirectories _ hwork
  obtain ⟨n, tables, hawaits⟩ := (htasks.gain hfirst).exists_awaits
  obtain ⟨start, -, -, hgains, -, -, -, -, htouches⟩ :=
    hawaits.openTasks hfiles.taskPlain hwork hopenTasks
  have hmid := hgains.keepsDirectories.trans htouches.directories
  obtain ⟨n', tables', hawaits'⟩ := (isSound_of_openTasks hfiles hwork (htasks.gain hfirst)
    (hreminders.gain hfirst) hopenTasks).exists_awaits
  obtain ⟨next, -, hgains', -, -, -, -, htouches'⟩ :=
    hawaits'.openWith hfiles.reminderPlain (hmid _ hwork) hopenReminders
  exact hfirst.keepsDirectories.trans
    (hmid.trans (hgains'.keepsDirectories.trans htouches'.directories))

end Store

end Daybook
