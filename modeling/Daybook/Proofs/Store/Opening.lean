import Daybook.Proofs.Store.Holding

namespace Daybook

open Disk

/-- The two databases of a configuration are in plain files. They are in one file, or neither has a
file where the other one has one. -/
structure Config.HasPlainFiles (config : Config) : Prop where
  taskPlain : Address.IsPlain config.tasksPath
  reminderPlain : Address.IsPlain config.remindersPath
  clear : Path.place config.tasksPath = Path.place config.remindersPath ∨
    ∀ place ∈ family (Path.place config.tasksPath), place ∉ family (Path.place config.remindersPath)

namespace Disk

/-- Nothing is kept in a database, and the working directory is there. -/
structure IsFresh (disk : Disk) : Prop where
  parts : ∀ place, disk.HasNoPart place
  working : disk.find? workingDirectory = some .directory

variable {disk after : Disk} {path : String} {c : Connection}

theorem HasSides.gain {place : Place} (h : disk.HasSides place)
    (hgains : disk.GainsDirectories after) :
    after.find? (logPlace place) = disk.find? (logPlace place) ∧
      after.find? (indexPlace place) = disk.find? (indexPlace place) := by
  constructor
  · rcases hgains.find (logPlace place) with hsame | ⟨hnone, -⟩
    · exact hsame
    · exact absurd hnone h.1
  · rcases hgains.find (indexPlace place) with hsame | ⟨hnone, -⟩
    · exact hsame
    · exact absurd hnone h.2

theorem HasSides.commit {place : Place} (h : disk.HasSides place) (c : Connection)
    (change : Tables → Tables) : (disk.commit c change).HasSides place := by
  unfold Disk.commit
  split
  · exact h
  · rename_i db _
    have hfind : ∀ there, disk.find? there ≠ none → ∀ new : Database,
        ((disk.putDatabase c.number new).refreshLog c.number new).find? there ≠ none := by
      intro there hthere new
      rcases find?_refreshLog (disk.putDatabase c.number new) c.number new there with hsame | hlog
      · rw [hsame]
        exact hthere
      · rw [hlog]
        exact nofun
    exact ⟨hfind _ h.1 _, hfind _ h.2 _⟩

theorem Stands.gain {number : Nat} {place : Place} {db : Database}
    (h : disk.Stands number place db) (hsides : disk.HasSides place)
    (hgains : disk.GainsDirectories after)
    (hjournal : after.find? (journalPlace place) ≠ some .directory) :
    after.Stands number place db := by
  obtain ⟨hlog, hindex⟩ := hsides.gain hgains
  have hdatabase : after.database? number = disk.database? number := by
    rw [database?, hgains.databases]
    rfl
  refine ⟨?_, hdatabase ▸ h.database, h.home, h.logged, h.under, h.reach, hlog ▸ h.log,
    hlog ▸ h.inUse, hindex ▸ h.index, ?_, hgains.issued ▸ h.issued⟩
  · rcases hgains.find place with hsame | ⟨hnone, -⟩
    · rw [hsame]
      exact h.body
    · rw [h.body] at hnone
      cases hnone
  · rcases hgains.find (journalPlace place) with hsame | ⟨-, hnew⟩
    · rw [hsame]
      exact h.journal
    · exact absurd hnew hjournal

theorem openWith_eq_ok {lacks : Tables → Bool} {add : Tables → Tables}
    (h : disk.openWith path lacks add = (.ok c, after)) :
    ∃ start mid tables, disk.GainsDirectories start ∧ start.HasParent path ∧
      start.connect path = (.ok c, mid) ∧ mid.tables c = .ok tables ∧
      after = if lacks tables then mid.commit c add else mid := by
  have hgains := gainsDirectories_ensureParent disk path
  unfold openWith at h
  split at h
  · cases h
  · rename_i start hparent
    rw [hparent] at hgains
    split at h
    · cases h
    · rename_i found mid hconnect
      split at h
      · cases h
      · rename_i tables htables
        have hparent := hasParent_of_ensureParent hparent
        split at h
        · rename_i hlacks
          cases h
          refine ⟨start, _, tables, hgains, hparent, hconnect, htables, ?_⟩
          rw [if_neg (by simpa using hlacks)]
        · rename_i hlacks
          split at h
          · cases h
            refine ⟨start, mid, tables, hgains, hparent, hconnect, htables, ?_⟩
            rw [if_pos (by simpa using hlacks)]
          · cases h

theorem bodyPlace?_of_connect (hplain : Address.IsPlain path)
    (h : disk.connect path = (.ok c, after)) : disk.bodyPlace? path = some (Path.place path) := by
  unfold Address.IsPlain at hplain
  unfold connect at h
  rw [hplain] at h
  cases hbody : disk.bodyPlace? path with
  | none =>
      simp only [reach, hbody] at h
      cases h
  | some place => rw [eq_place_of_bodyPlace? hbody]

theorem openWith_new {lacks : Tables → Bool} {add : Tables → Tables}
    (hplain : Address.IsPlain path) (hwork : disk.find? workingDirectory = some .directory)
    (hlacks : lacks .empty = true)
    (hparts : ∀ there ∈ family (Path.place path), disk.HasNoPart there)
    (h : disk.openWith path lacks add = (.ok c, after)) :
    ∃ start db, disk.GainsDirectories start ∧ start.Leads path (Path.place path) ∧
      c = ⟨start.issued, true⟩ ∧ after.Stands start.issued (Path.place path) db ∧
      db.tables = add .empty ∧ after.HasSides (Path.place path) ∧
      start.Touches after start.issued (Path.place path) := by
  obtain ⟨start, mid, tables, hgains, hparent, hconnect, htables, hcommit⟩ := openWith_eq_ok h
  have hbody := bodyPlace?_of_connect hplain hconnect
  obtain ⟨rfl, hdirectory, ⟨db, hdb, hempty, -⟩, hsides, htouches⟩ := connect_eq_ok hplain hbody
    (fun there hthere => (hparts there hthere).gain hgains) hconnect
  rw [hdb.tables true, hempty] at htables
  cases htables
  obtain ⟨new, hnew, hadd, htouches'⟩ := hdb.commit true add
  have hsides := hsides.commit ⟨start.issued, true⟩ add
  rw [if_pos hlacks] at hcommit
  rw [← hcommit] at hnew htouches' hsides
  have hleads := leads_of_bodyPlace? (hgains.keepsDirectories _ hwork) hparent hbody hdirectory
  exact ⟨start, new, hgains, hleads, rfl, hnew, hempty ▸ hadd, hsides,
    htouches.trans htouches'⟩

theorem journal_of_connect {number : Nat} {place : Place} (hplain : Address.IsPlain path)
    (hbody : disk.bodyPlace? path = some place)
    (hpart : disk.find? place = some (.part number .body true []))
    (h : disk.connect path = (.ok c, after)) :
    disk.find? (journalPlace place) ≠ some .directory := by
  intro hdirectory
  rw [connect_of_body hplain hbody hpart] at h
  simp only [enter, clearJournal, hdirectory] at h
  cases h

theorem openWith_standing {lacks : Tables → Bool} {add : Tables → Tables}
    (hplain : Address.IsPlain path) (hwork : disk.find? workingDirectory = some .directory)
    {number : Nat} {db : Database} (hdb : disk.Stands number (Path.place path) db)
    (hsides : disk.HasSides (Path.place path)) (hlacks : lacks db.tables = true)
    (h : disk.openWith path lacks add = (.ok c, after)) :
    ∃ start new, disk.GainsDirectories start ∧ start.Leads path (Path.place path) ∧
      c = ⟨number, true⟩ ∧ start.Stands number (Path.place path) db ∧
      after.Stands number (Path.place path) new ∧ new.tables = add db.tables ∧
      start.Touches after number (Path.place path) := by
  obtain ⟨start, mid, tables, hgains, hparent, hconnect, htables, hcommit⟩ := openWith_eq_ok h
  have hbody := bodyPlace?_of_connect hplain hconnect
  have hpart : start.find? (Path.place path) = some (.part number .body true []) := by
    rcases hgains.find (Path.place path) with hsame | ⟨hnone, -⟩
    · rw [hsame]
      exact hdb.body
    · rw [hdb.body] at hnone
      cases hnone
  have hstart := hdb.gain hsides hgains (journal_of_connect hplain hbody hpart hconnect)
  have hleads := leads_of_bodyPlace? (hgains.keepsDirectories _ hwork) hparent hbody
    (hpart ▸ nofun)
  obtain ⟨entered, hentered, hstands, htouches⟩ := hstart.connect hplain hbody
  rw [hconnect] at hentered
  cases hentered
  rw [hstands.tables true] at htables
  cases htables
  obtain ⟨new, hnew, hadd, htouches'⟩ := hstands.commit true add
  have hlacks : lacks db.enter.tables = true := hlacks
  rw [if_pos hlacks] at hcommit
  rw [← hcommit] at hnew htouches'
  exact ⟨start, new, hgains, hleads, rfl, hstart, hnew, hadd, htouches.trans htouches'⟩

end Disk

/-- A store is opened for the first time, on a fresh disk, and no directory is then in the place of a
journal of the tasks. -/
structure Store.IsOpened (config : Config) (disk : Disk) (store : Store) (after : Disk) : Prop where
  fresh : disk.IsFresh
  files : config.HasPlainFiles
  opened : Store.openAt config disk = (.ok store, after)
  journal : after.find? (journalPlace (Path.place config.tasksPath)) ≠ some .directory

theorem Store.openAt_eq_ok {config : Config} {disk after : Disk} {store : Store}
    (h : Store.openAt config disk = (.ok store, after)) :
    ∃ start mid, disk.GainsDirectories start ∧
      (config.stateDir = "" ∨ start.isDirectory config.stateDir = true) ∧
      start.openTasks config.tasksPath = (.ok store.tasks, mid) ∧
      mid.openReminders config.remindersPath = (.ok store.reminders, after) ∧
      store.notes = ⟨config.notesPath⟩ := by
  obtain ⟨hgains, hstate⟩ := makeDirectoriesUpTo_spec disk
    ((Path.steps config.stateDir).length + 1) config.stateDir
  unfold openAt at h
  split at h
  · cases h
  · rename_i start hstart
    rw [makeDirectories] at hstart
    rw [hstart] at hgains hstate
    split at h
    · cases h
    · rename_i tasks mid htasks
      split at h
      · cases h
      · rename_i reminders last hreminders
        cases h
        exact ⟨start, mid, hgains, hstate rfl, htasks, hreminders, rfl⟩

theorem Store.IsOpened.holds {config : Config} {disk after : Disk} {store : Store}
    (h : Store.IsOpened config disk store after) :
    ∃ layout : Layout, store = layout.store config ∧
      Holds config layout after .empty .empty := by
  obtain ⟨first, mid, hfirst, hstate, htasks, hreminders, hnotes⟩ := openAt_eq_ok h.opened
  have hwork := hfirst.keepsDirectories _ h.fresh.working
  obtain ⟨start, db, hgains, hleads, hc, hdb, htables, hsides, htouches⟩ :=
    openWith_new h.files.taskPlain hwork rfl
      (fun there _ => (h.fresh.parts there).gain hfirst) htasks
  have hwork' := htouches.directories _ (hgains.keepsDirectories _ hwork)
  rcases h.files.clear with hsame | hclear
  · have hlacks : db.tables.reminders.isNone = true := by
      rw [htables]
      rfl
    rw [hsame] at hdb hsides
    obtain ⟨start', new, hgains', hleads', hc', -, hnew, htables', htouches'⟩ :=
      openWith_standing h.files.reminderPlain hwork' hdb hsides hlacks hreminders
    have hkeeps := hgains'.keepsDirectories.trans htouches'.directories
    refine ⟨⟨start.issued, Path.place config.remindersPath, start.issued,
      Path.place config.remindersPath⟩, ?_, ?_⟩
    · cases store
      cases hnotes
      cases hc
      cases hc'
      rfl
    · exact {
        state := hstate.imp_right (isDirectory_of_keepsDirectories
          (hgains.keepsDirectories.trans (htouches.directories.trans hkeeps)))
        taskPlain := h.files.taskPlain
        reminderPlain := h.files.reminderPlain
        taskPath := hsame ▸ hleads.mono (htouches.directories.trans hkeeps)
        reminderPath := hleads'.mono htouches'.directories
        clear := Or.inl ⟨rfl, rfl⟩
        tasks := ⟨new, hnew, by rw [htables', htables]⟩
        reminders := ⟨new, hnew, by rw [htables']⟩ }
  · have hparts : ∀ there ∈ family (Path.place config.remindersPath), mid.HasNoPart there := by
      intro there hthere number part intact bytes hpart
      have hother : there ∉ family (Path.place config.tasksPath) := fun h => hclear there h hthere
      rw [htouches.find there hother] at hpart
      exact ((h.fresh.parts there).gain (hfirst.trans hgains)) number part intact bytes hpart
    obtain ⟨start', new, hgains', hleads', hc', hnew, htables', -, htouches'⟩ :=
      openWith_new h.files.reminderPlain hwork' rfl hparts hreminders
    have hkeeps := hgains'.keepsDirectories.trans htouches'.directories
    have hnumber : start.issued ≠ start'.issued := by
      rw [hgains'.issued]
      exact Nat.ne_of_lt hdb.issued
    have hstart := hdb.gain hsides hgains' fun hdirectory =>
      h.journal (htouches'.directories _ hdirectory)
    refine ⟨⟨start.issued, Path.place config.tasksPath, start'.issued,
      Path.place config.remindersPath⟩, ?_, ?_⟩
    · cases store
      cases hnotes
      cases hc
      cases hc'
      rfl
    · exact {
        state := hstate.imp_right (isDirectory_of_keepsDirectories
          (hgains.keepsDirectories.trans (htouches.directories.trans hkeeps)))
        taskPlain := h.files.taskPlain
        reminderPlain := h.files.reminderPlain
        taskPath := hleads.mono (htouches.directories.trans hkeeps)
        reminderPath := hleads'.mono htouches'.directories
        clear := Or.inr ⟨hnumber, hclear⟩
        tasks := ⟨db, hstart.frame htouches' hnumber hclear, by rw [htables]⟩
        reminders := ⟨new, hnew, by rw [htables']⟩ }

/-- A store in a new state directory on an empty disk. -/
def newConfig : Config := { stateDir := "state" }

def newStore : Store := ⟨⟨"state/notes.md"⟩, ⟨0, true⟩, ⟨1, true⟩⟩

def newDisk : Disk := (Store.openAt newConfig .empty).2

theorem Disk.isFresh_empty : Disk.IsFresh .empty where
  parts := by
    intro place number part intact bytes h
    unfold find? at h
    split at h
    · cases h
    · dsimp only [Disk.empty] at h
      rw [List.lookup_cons] at h
      split at h <;> cases h
  working := by decide +kernel

theorem isOpened_newDisk : Store.IsOpened newConfig .empty newStore newDisk where
  fresh := Disk.isFresh_empty
  files := {
    taskPlain := rfl
    reminderPlain := rfl
    clear := by decide +kernel }
  opened := rfl
  journal := by decide +kernel

end Daybook
