import Daybook.Note.Log
import Daybook.Proofs.Disk.Files
import Daybook.Proofs.Note.Recovery

namespace Daybook.NoteLog

open NoteEntry

variable {log : NoteLog} {disk : Disk} {place : Place}

def appendAll (log : NoteLog) : List (String × Instant) → Disk → Except Error Disk
  | [], disk => .ok disk
  | (content, t) :: notes, disk =>
      match log.append content t disk with
      | .ok disk => log.appendAll notes disk
      | .error e => .error e

theorem read?_of_openFile (h : disk.openFile log.path = .ok place) :
    log.read? disk =
      .ok (if disk.find? place = none then none else some (disk.bytesAt place)) := by
  rw [read?, Disk.read_of_openFile h]
  by_cases hfind : disk.find? place = none
  · rw [if_pos hfind, if_pos hfind]
  · rw [if_neg hfind, if_neg hfind]

theorem entries_of_openFile (h : disk.openFile log.path = .ok place) :
    log.entries disk = .ok (ofLog (disk.bytesAt place)) := by
  rw [entries, read?_of_openFile h]
  by_cases hfind : disk.find? place = none
  · rw [if_pos hfind, Disk.bytesAt_of_none hfind]
    rfl
  · rw [if_neg hfind]
    rfl

theorem append_eq_ok_iff {content : String} {t : Instant} {after : Disk} :
    log.append content t disk = .ok after ↔
      disk.append log.path (Utf8.encode (format content.toList t)) = .ok after := by
  rw [append]
  cases disk.append log.path (Utf8.encode (format content.toList t)) with
  | error fault => exact ⟨nofun, nofun⟩
  | ok next => simp only [Except.ok.injEq]

theorem append_of_openFile (h : disk.openFile log.path = .ok place) (content : String)
    (t : Instant) :
    ∃ after, log.append content t disk = .ok after ∧ after.openFile log.path = .ok place ∧
      after.bytesAt place = disk.bytesAt place ++ Utf8.encode (format content.toList t) := by
  obtain ⟨after, hafter, hopen, hbytes⟩ :=
    Disk.append_of_openFile h (Utf8.encode (format content.toList t))
  exact ⟨after, append_eq_ok_iff.mpr hafter, hopen, hbytes⟩

theorem appendAll_of_openFile (h : disk.openFile log.path = .ok place)
    (notes : List (String × Instant)) :
    ∃ after, log.appendAll notes disk = .ok after ∧ after.openFile log.path = .ok place ∧
      after.bytesAt place = disk.bytesAt place ++ written notes := by
  induction notes generalizing disk with
  | nil => exact ⟨disk, rfl, h, (List.append_nil _).symm⟩
  | cons note notes ih =>
      obtain ⟨next, hnext, hopen, hbytes⟩ := append_of_openFile h note.1 note.2
      obtain ⟨after, hafter, hopen', hbytes'⟩ := ih hopen
      refine ⟨after, ?_, hopen', ?_⟩
      · rw [appendAll, hnext]
        exact hafter
      · rw [hbytes', hbytes, List.append_assoc]
        rfl

/-- A note that is added is recovered as it is, behind all entries that were there before, exactly when
it is recoverable. So are notes that are added in a row. The log may hold anything, but must not end
within a line break. -/
theorem entries_append_iff (h : disk.openFile log.path = .ok place)
    (hend : (disk.bytesAt place).getLast? ≠ some carriageReturn) :
    ∃ found, log.entries disk = .ok found ∧
      (∀ content t, ∃ after, log.append content t disk = .ok after ∧
        (log.entries after = .ok (found ++ [ofNote content.toList t]) ↔
          IsRecoverable content.toList)) ∧
      ∀ notes : List (String × Instant), (∀ note ∈ notes, IsRecoverable note.1.toList) →
        ∃ after, log.appendAll notes disk = .ok after ∧
          log.entries after =
            .ok (found ++ notes.map fun note => ofNote note.1.toList note.2) := by
  refine ⟨ofLog (disk.bytesAt place), entries_of_openFile h, ?_, ?_⟩
  · intro content t
    obtain ⟨after, hafter, hopen, hbytes⟩ := append_of_openFile h content t
    refine ⟨after, hafter, ?_⟩
    rw [entries_of_openFile hopen, hbytes, Except.ok.injEq]
    exact ⟨isRecoverable_of_ofLog_append_format hend, ofLog_append_format_of_recoverable hend t⟩
  · intro notes hnotes
    obtain ⟨after, hafter, hopen, hbytes⟩ := appendAll_of_openFile h notes
    refine ⟨after, hafter, ?_⟩
    rw [entries_of_openFile hopen, hbytes, ofLog_append_written hend hnotes]

/-- A log that ends within an entry. -/
def tornDisk : Disk :=
  Disk.empty.put ["work", "notes.md"] (.file (Utf8.encode "## 2024-01-01 00:00:00\nmilk".toList))

theorem entries_append_tornDisk :
    ∃ found after, NoteLog.entries ⟨"notes.md"⟩ tornDisk = .ok found ∧
      NoteLog.append ⟨"notes.md"⟩ "---\n\nbread\n" .epoch tornDisk = .ok after ∧
      NoteLog.entries ⟨"notes.md"⟩ after =
        .ok (found ++ [ofNote "---\n\nbread\n".toList .epoch]) := by
  have hopen : tornDisk.openFile (NoteLog.mk "notes.md").path = .ok ["work", "notes.md"] := rfl
  obtain ⟨found, hfound, hone, -⟩ := entries_append_iff hopen (by decide)
  obtain ⟨after, hafter, hiff⟩ := hone "---\n\nbread\n" .epoch
  exact ⟨found, after, hfound, hafter, hiff.mpr (by decide)⟩

end Daybook.NoteLog
