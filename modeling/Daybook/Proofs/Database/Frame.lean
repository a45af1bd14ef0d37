import Daybook.Database.Query
import Daybook.Proofs.Except

namespace Daybook.Disk

variable (disk : Disk)

@[simp] theorem databases_put (place : Place) (entry : Entry) :
    (disk.put place entry).databases = disk.databases := rfl

@[simp] theorem databases_erase (place : Place) :
    (disk.erase place).databases = disk.databases := rfl

@[simp] theorem databases_eraseFile (place : Place) :
    (disk.eraseFile place).databases = disk.databases := by
  unfold eraseFile
  split <;> rfl

@[simp] theorem databases_putPart (number : Nat) (part : Part) (place : Place) :
    (disk.putPart number part place).databases = disk.databases := by
  unfold putPart
  split <;> rfl

@[simp] theorem databases_putSides (number : Nat) (manner : Manner) (place : Place) :
    (disk.putSides number manner place).databases = disk.databases := by
  cases manner <;> simp [putSides]

@[simp] theorem databases_clearSides (place : Place) :
    (disk.clearSides place).databases = disk.databases := by
  simp [clearSides]

@[simp] theorem databases_clearJournal (place : Place) :
    (disk.clearJournal place).2.databases = disk.databases := by
  unfold clearJournal
  split
  · rfl
  · split
    · rfl
    · split <;> rfl
  · rfl

@[simp] theorem databases_reach (whole path : String) (access : Access) :
    (disk.reach whole path access).2.databases = disk.databases := by
  unfold reach
  split
  · rfl
  · split
    · rfl
    · rfl
    · split <;> rfl

@[simp] theorem databases_refreshLog (number : Nat) (db : Database) :
    (disk.refreshLog number db).databases = disk.databases := by
  unfold refreshLog
  split
  · rfl
  · split <;> rfl

section

variable {disk} {path : String} {after : Disk}

theorem databases_append {bytes : List UInt8} (h : disk.append path bytes = .ok after) :
    after.databases = disk.databases := by
  obtain ⟨place, -, h⟩ := bind_eq_ok_iff.mp h
  split at h <;> cases h <;> rfl

theorem databases_write {bytes : List UInt8} (h : disk.write path bytes = .ok after) :
    after.databases = disk.databases := by
  obtain ⟨place, -, h⟩ := bind_eq_ok_iff.mp h
  cases h
  rfl

theorem databases_remove (h : disk.remove path = .ok after) :
    after.databases = disk.databases := by
  obtain ⟨target, -, h⟩ := bind_eq_ok_iff.mp h
  split at h
  · cases h
  · cases h
  · split at h <;> cases h
    rfl

end

end Daybook.Disk
