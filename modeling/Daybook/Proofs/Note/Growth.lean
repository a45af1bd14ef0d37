import Daybook.Proofs.Disk.Rewriting
import Daybook.Proofs.Note.Log
import Daybook.Proofs.Note.Search

namespace Daybook.NoteLog

open NoteEntry

variable {log : NoteLog} {disk after : Disk} {place : Place} {notes : List (String × Instant)}

/-- What is in the log after notes have been added to what was found there. A log that was not there is
made for the first note. -/
def grown (notes : List (String × Instant)) (found : Option (List UInt8)) : Option (List UInt8) :=
  if notes.isEmpty then found else some (found.getD [] ++ written notes)

theorem getD_grown (notes : List (String × Instant)) (found : Option (List UInt8)) :
    (grown notes found).getD [] = found.getD [] ++ written notes := by
  cases notes <;> simp [grown, written]

theorem grown_append (earlier later : List (String × Instant)) (found : Option (List UInt8)) :
    grown (earlier ++ later) found = grown later (grown earlier found) := by
  cases later with
  | nil => simp [grown]
  | cons note later =>
      rw [grown, grown, getD_grown, List.append_assoc, written, List.flatMap_append]
      simp [written]

/-- A log that is there is empty or ends with a line feed. -/
def EndsLine (log : NoteLog) (disk : Disk) : Prop :=
  ∀ bytes, log.read? disk = .ok (some bytes) → bytes = [] ∨ bytes.getLast? = some lineFeed

/-- Notes have been added to a log: they stand behind what was there, and a search finds what it found
before, and maybe more after it. -/
structure Grows (log : NoteLog) (disk after : Disk) (notes : List (String × Instant)) : Prop where
  read : log.read? after = (log.read? disk).map (grown notes)
  search : ∀ query limit, ∃ more,
    log.search query limit after = (log.search query limit disk).map (· ++ more)

theorem Grows.of_read (hread : log.read? after = (log.read? disk).map (grown notes))
    (hend : log.EndsLine disk) : log.Grows disk after notes := by
  refine ⟨hread, fun query limit => ?_⟩
  by_cases hlimit : limit = 0
  · subst hlimit
    exact ⟨[], rfl⟩
  rw [search_eq query hlimit, search_eq query hlimit, hread]
  cases hfound : log.read? disk with
  | error e => exact ⟨[], rfl⟩
  | ok found =>
      have hbefore : found.getD [] = [] ∨ (found.getD []).getLast? = some lineFeed := by
        cases found with
        | none => exact .inl rfl
        | some bytes => exact hend bytes hfound
      have hlines : lines ((grown notes found).getD []) =
          lines (found.getD []) ++ lines (written notes) := by
        rw [getD_grown, lines, linesOf_append hbefore, List.map_append]
        rfl
      simp only [Except.map, hlines, hits_append, List.take_append]
      exact ⟨_, rfl⟩

theorem read?_append {content : String} {t : Instant}
    (h : log.append content t disk = .ok after) :
    log.read? after = (log.read? disk).map (grown [(content, t)]) := by
  obtain ⟨place, hopen⟩ := Disk.exists_openFile_of_append (append_eq_ok_iff.mp h)
  obtain ⟨_, hafter, hopen', hbytes⟩ := append_of_openFile hopen content t
  obtain rfl := Except.ok.inj (h.symm.trans hafter)
  have hlast := getLast?_append_format (disk.bytesAt place) content.toList t
  have hthere : after.find? place ≠ none := by
    intro hnone
    rw [← hbytes, Disk.bytesAt_of_none hnone] at hlast
    cases hlast
  rw [read?_of_openFile hopen, read?_of_openFile hopen', if_neg hthere, hbytes]
  by_cases hfind : disk.find? place = none
  · rw [if_pos hfind, Disk.bytesAt_of_none hfind]
    simp [Except.map, grown, written]
  · rw [if_neg hfind]
    simp [Except.map, grown, written]

theorem read?_of_sameLayout (h : disk.SameLayout after)
    (hsame : after.find? (Path.place log.path) = disk.find? (Path.place log.path))
    (hpart : disk.HasNoPart (Path.place log.path)) : log.read? after = log.read? disk := by
  rw [read?, read?, h.read hsame hpart]

end Daybook.NoteLog
