import Daybook.Proofs.Store.Pruning
import Daybook.Wire.Response

namespace Daybook

namespace Disk

variable {disk after : Disk} {path : String} {place there : Place} {number : Nat} {c : Connection}

/-- What stands at a place is of no use as a database: a directory, or a file of more than one byte
beside which no log has stayed from which a database could be brought back. -/
def IsNoDatabase (disk : Disk) (place : Place) : Prop :=
  disk.find? place = some .directory ∨
    ∃ bytes, disk.find? place = some (.file bytes) ∧ 1 < bytes.length ∧
      disk.HasNoPart (logPlace place)

namespace IsNoDatabase

theorem gain (h : disk.IsNoDatabase place) (hgains : disk.GainsDirectories after) :
    after.IsNoDatabase place := by
  refine h.imp (hgains.keepsDirectories place) ?_
  rintro ⟨bytes, hfile, hlength, hlog⟩
  refine ⟨bytes, ?_, hlength, hlog.gain hgains⟩
  rcases hgains.find place with hsame | ⟨hnone, -⟩
  · exact hsame.trans hfile
  · rw [hfile] at hnone
    cases hnone

theorem touch (h : disk.IsNoDatabase place) (htouches : disk.Touches after number there)
    (hplaces : ∀ other ∈ family place, other ∉ family there) : after.IsNoDatabase place := by
  have hfind := htouches.find place (hplaces place (by simp [family]))
  refine h.imp hfind.trans ?_
  rintro ⟨bytes, hfile, hlength, hlog⟩
  exact ⟨bytes, hfind.trans hfile, hlength, hlog.touch htouches (hplaces _ (by simp [family]))⟩

theorem connect_ne_ok (h : disk.IsNoDatabase (Path.place path)) (hplain : Address.IsPlain path)
    (c : Connection) : disk.connect path ≠ (.ok c, after) := by
  intro hconnect
  have hbody := bodyPlace?_of_connect hplain hconnect
  have hne : Path.place path ≠ [] := by
    intro hroot
    have hplace := (bodyPlace?_eq_some_iff.mp hbody).2.1
    rw [hroot] at hplace
    simp at hplace
  rcases h with hdirectory | ⟨bytes, hfile, hlength, hlog⟩
  · unfold Address.IsPlain at hplain
    simp only [connect, hplain, reach, hbody, hdirectory] at hconnect
    cases hconnect
  · have hnew : disk.isNewBody (Path.place path) = false := by
      have hbytes : ¬bytes.length ≤ 1 := by omega
      simp [isNewBody, hfile, bytes?, hbytes]
    unfold Address.IsPlain at hplain
    simp only [connect, hplain, reach, hbody, hfile, hnew, Bool.false_and, Bool.false_eq_true,
      if_false] at hconnect
    exact enter_ne_ok hfile hlog hne _ c hconnect

theorem openWith_ne_ok (h : disk.IsNoDatabase (Path.place path)) (hplain : Address.IsPlain path)
    {lacks : Tables → Bool} {add : Tables → Tables} (c : Connection) :
    disk.openWith path lacks add ≠ (.ok c, after) := by
  intro hopen
  obtain ⟨start, mid, tables, hgains, -, hconnect, -, -⟩ := openWith_eq_ok hopen
  exact (h.gain hgains).connect_ne_ok hplain c hconnect

end IsNoDatabase

theorem kind_of_openWith {lacks : Tables → Bool} {add : Tables → Tables} {e : Error}
    (h : disk.openWith path lacks add = (.error e, after)) : e.kind = .ioFailure := by
  unfold openWith at h
  repeat' split at h
  all_goals cases h
  all_goals rfl

end Disk

namespace Store

open Disk

variable {config : Config} {disk after : Disk} {store : Store}

theorem kind_of_openAt {e : Error} (h : openAt config disk = (.error e, after)) :
    e.kind = .ioFailure := by
  unfold openAt at h
  split at h
  · cases h
    rfl
  · split at h
    · cases h
      exact kind_of_openWith ‹_›
    · split at h
      · cases h
        exact kind_of_openWith ‹_›
      · cases h

theorem openAt_ne_ok_of_tasks (hplain : Address.IsPlain config.tasksPath)
    (h : disk.IsNoDatabase (Path.place config.tasksPath)) :
    openAt config disk ≠ (.ok store, after) := by
  intro hopen
  obtain ⟨start, mid, hgains, -, htasks, -, -⟩ := openAt_eq_ok hopen
  exact (h.gain hgains).openWith_ne_ok hplain store.tasks htasks

/-- The tasks are opened first, and leave what is in the place of the reminders as it is. -/
theorem openAt_ne_ok_of_reminders (htaskPlain : Address.IsPlain config.tasksPath)
    (hreminderPlain : Address.IsPlain config.remindersPath)
    (hapart : ∀ there ∈ Disk.family (Path.place config.remindersPath),
      there ∉ Disk.family (Path.place config.tasksPath))
    (hwork : disk.find? workingDirectory = some .directory)
    (hsound : disk.IsSound (Path.place config.tasksPath))
    (h : disk.IsNoDatabase (Path.place config.remindersPath)) :
    openAt config disk ≠ (.ok store, after) := by
  intro hopen
  obtain ⟨start, mid, hgains, -, htasks, hreminders, -⟩ := openAt_eq_ok hopen
  obtain ⟨n, tables, hawaits⟩ := (hsound.gain hgains).exists_awaits
  obtain ⟨next, -, -, hgains', -, -, -, -, htouches⟩ :=
    hawaits.openTasks htaskPlain (hgains.keepsDirectories _ hwork) htasks
  exact (((h.gain hgains).gain hgains').touch htouches hapart).openWith_ne_ok hreminderPlain
    store.reminders hreminders

end Store

end Daybook
