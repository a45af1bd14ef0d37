import Daybook.Database.Visit
import Daybook.Proofs.Database.Commit
import Daybook.Proofs.Disk.Files

namespace Daybook

namespace Place

theorem beside_concat (init : Place) (name suffix : String) :
    beside (init ++ [name]) suffix = init ++ [name ++ suffix] := by
  rw [beside, List.getLast?_concat, List.dropLast_concat]

theorem exists_concat {place : Place} (h : place ≠ []) : ∃ init name, place = init ++ [name] :=
  ⟨place.dropLast, place.getLast h, (List.dropLast_concat_getLast h).symm⟩

theorem beside_ne_nil {place : Place} (h : place ≠ []) (suffix : String) :
    place.beside suffix ≠ [] := by
  obtain ⟨init, name, rfl⟩ := exists_concat h
  rw [beside_concat]
  exact List.concat_ne_nil _ _

theorem beside_inj {place : Place} (h : place ≠ []) {s t : String} :
    place.beside s = place.beside t ↔ s = t := by
  obtain ⟨init, name, rfl⟩ := exists_concat h
  simp [beside_concat, String.append_right_inj]

theorem beside_eq_self {place : Place} (h : place ≠ []) {s : String} :
    place.beside s = place ↔ s = "" := by
  obtain ⟨init, name, rfl⟩ := exists_concat h
  simp [beside_concat]

/-- The names that the files beside a database have after its own name. -/
def suffixes : List String := ["-wal", "-shm", "-journal"]

theorem suffix_eq {name other s t : String} (hs : s ∈ suffixes) (ht : t ∈ suffixes)
    (h : name ++ s = other ++ t) : s = t := by
  have hend := congrArg (fun text : String => text.toList.reverse.take 3) h
  simp only [suffixes, List.mem_cons, List.not_mem_nil, or_false] at hs ht
  rcases hs with rfl | rfl | rfl <;> rcases ht with rfl | rfl | rfl <;>
    first | rfl | simp at hend

theorem eq_of_beside_eq {place other : Place} {s t : String} (hs : s ∈ suffixes)
    (ht : t ∈ suffixes) (h : place.beside s = other.beside t) : place = other := by
  rcases List.eq_nil_or_concat place with rfl | ⟨init, name, rfl⟩
  · rcases List.eq_nil_or_concat other with rfl | ⟨init', name', rfl⟩
    · rfl
    · rw [List.concat_eq_append, beside_concat] at h
      cases init' <;> cases h
  · rcases List.eq_nil_or_concat other with rfl | ⟨init', name', rfl⟩
    · rw [List.concat_eq_append, beside_concat] at h
      cases init <;> cases h
    · simp only [List.concat_eq_append, beside_concat] at h ⊢
      obtain ⟨rfl, hname⟩ := List.append_inj' h rfl
      have hname := (List.cons.inj hname).1
      obtain rfl := suffix_eq hs ht hname
      rw [String.append_left_inj] at hname
      rw [hname]

end Place

namespace Disk

def family (place : Place) : List Place :=
  [place, logPlace place, indexPlace place, journalPlace place]

section Family

variable {place : Place} (h : place ≠ [])
include h

theorem logPlace_ne : logPlace place ≠ place := by
  rw [logPlace, Ne, Place.beside_eq_self h]
  decide

theorem indexPlace_ne : indexPlace place ≠ place := by
  rw [indexPlace, Ne, Place.beside_eq_self h]
  decide

theorem journalPlace_ne : journalPlace place ≠ place := by
  rw [journalPlace, Ne, Place.beside_eq_self h]
  decide

theorem logPlace_ne_indexPlace : logPlace place ≠ indexPlace place := by
  rw [logPlace, indexPlace, Ne, Place.beside_inj h]
  decide

theorem journalPlace_ne_logPlace : journalPlace place ≠ logPlace place := by
  rw [journalPlace, logPlace, Ne, Place.beside_inj h]
  decide

theorem journalPlace_ne_indexPlace : journalPlace place ≠ indexPlace place := by
  rw [journalPlace, indexPlace, Ne, Place.beside_inj h]
  decide

theorem logPlace_ne_nil : logPlace place ≠ [] := Place.beside_ne_nil h "-wal"

theorem indexPlace_ne_nil : indexPlace place ≠ [] := Place.beside_ne_nil h "-shm"

theorem journalPlace_ne_nil : journalPlace place ≠ [] := Place.beside_ne_nil h "-journal"

end Family

theorem mem_family_iff {place there : Place} :
    there ∈ family place ↔ there = place ∨ ∃ s ∈ Place.suffixes, there = place.beside s := by
  simp [family, Place.suffixes, logPlace, indexPlace, journalPlace]

/-- Databases of which neither is named like a file beside the other have no file in common. -/
theorem not_mem_family {place other there : Place} (hplace : place ∉ family other)
    (hother : other ∉ family place) (h : there ∈ family place) : there ∉ family other := by
  intro hthere
  have hne : place ≠ other := by
    rintro rfl
    exact hplace List.mem_cons_self
  rcases mem_family_iff.mp h with rfl | ⟨s, hs, rfl⟩
  · exact hplace hthere
  · rcases mem_family_iff.mp hthere with hself | ⟨t, ht, hbeside⟩
    · exact hother (hself ▸ h)
    · exact hne (Place.eq_of_beside_eq hs ht hbeside)

variable {disk disk' : Disk} {number : Nat} {place : Place}

theorem hasDirectory_eq_false (h : disk.find? place ≠ some .directory) :
    disk.hasDirectory place = false :=
  decide_eq_false h

theorem find?_eraseFile_self (hne : place ≠ []) (h : disk.find? place ≠ some .directory) :
    (disk.eraseFile place).find? place = none := by
  rw [eraseFile, hasDirectory_eq_false h]
  exact find?_erase_self disk hne

theorem find?_eraseFile_of_ne {other : Place} (h : other ≠ place) :
    (disk.eraseFile place).find? other = disk.find? other := by
  unfold eraseFile
  split
  · rfl
  · exact find?_erase_of_ne disk h

theorem find?_putPart_self (hne : place ≠ []) (h : disk.find? place ≠ some .directory)
    (part : Part) :
    (disk.putPart number part place).find? place = some (.part number part true []) := by
  rw [putPart, hasDirectory_eq_false h]
  exact find?_put_self disk place _ hne

theorem find?_putPart_of_ne {other : Place} (h : other ≠ place) (part : Part) :
    (disk.putPart number part place).find? other = disk.find? other := by
  unfold putPart
  split
  · rfl
  · exact find?_put_of_ne disk _ h

/-- Only one database has changed, and only its files. -/
structure Touches (disk disk' : Disk) (number : Nat) (place : Place) : Prop where
  find : ∀ other, other ∉ family place → disk'.find? other = disk.find? other
  database : ∀ other, other ≠ number → disk'.database? other = disk.database? other
  issued : disk.issued ≤ disk'.issued
  directories : disk.KeepsDirectories disk'

namespace Touches

theorem refl (disk : Disk) (number : Nat) (place : Place) : disk.Touches disk number place :=
  ⟨fun _ _ => rfl, fun _ _ => rfl, Nat.le_refl _, KeepsDirectories.refl disk⟩

theorem trans {disk'' : Disk} (h : disk.Touches disk' number place)
    (h' : disk'.Touches disk'' number place) : disk.Touches disk'' number place where
  find other hother := (h'.find other hother).trans (h.find other hother)
  database other hother := (h'.database other hother).trans (h.database other hother)
  issued := Nat.le_trans h.issued h'.issued
  directories := h.directories.trans h'.directories

theorem putDatabase (disk : Disk) (number : Nat) (db : Database) (place : Place) :
    disk.Touches (disk.putDatabase number db) number place where
  find _ _ := rfl
  database _ hother := database?_putDatabase_of_ne disk db hother
  issued := Nat.le_refl _
  directories := fun _ h => h

theorem put {there : Place} (hthere : there ∈ family place)
    (h : disk.find? there ≠ some .directory) (entry : Entry) (number : Nat) :
    disk.Touches (disk.put there entry) number place where
  find _ hother := find?_put_of_ne disk entry fun heq => hother (heq ▸ hthere)
  database _ _ := rfl
  issued := Nat.le_refl _
  directories := keepsDirectories_put h entry

theorem erase {there : Place} (hthere : there ∈ family place)
    (h : disk.find? there ≠ some .directory) (number : Nat) :
    disk.Touches (disk.erase there) number place where
  find _ hother := find?_erase_of_ne disk fun heq => hother (heq ▸ hthere)
  database _ _ := rfl
  issued := Nat.le_refl _
  directories := keepsDirectories_erase h

theorem eraseFile {there : Place} (hthere : there ∈ family place) (number : Nat) :
    disk.Touches (disk.eraseFile there) number place := by
  unfold Disk.eraseFile
  split
  · exact refl disk number place
  · exact erase hthere (of_decide_eq_false (Bool.eq_false_iff.mpr ‹_›)) number

theorem putPart {there : Place} (hthere : there ∈ family place) (number n : Nat) (part : Part) :
    disk.Touches (disk.putPart n part there) number place := by
  unfold Disk.putPart
  split
  · exact refl disk number place
  · exact put hthere (of_decide_eq_false (Bool.eq_false_iff.mpr ‹_›)) _ number

theorem putSides (disk : Disk) (number n : Nat) (place : Place) :
    disk.Touches (disk.putSides n .logged place) number place :=
  (putPart (by simp [family]) number n .log).trans (putPart (by simp [family]) number n .index)

theorem clearSides (disk : Disk) (number : Nat) (place : Place) :
    disk.Touches (disk.clearSides place) number place :=
  (eraseFile (by simp [family]) number).trans (eraseFile (by simp [family]) number)

end Touches

/-- A database stands at a place and is changed through a log. -/
structure Stands (disk : Disk) (number : Nat) (place : Place) (db : Database) : Prop where
  body : disk.find? place = some (.part number .body true [])
  database : disk.database? number = some db
  home : db.home = some place
  logged : db.logged = true
  under : db.under = none
  reach : db.log ≠ .remainder
  log : disk.find? (logPlace place) = none ∨
    disk.find? (logPlace place) = some (.part number .log true [])
  inUse : db.isOpen = true → disk.find? (logPlace place) = some (.part number .log true [])
  index : disk.find? (indexPlace place) ≠ some .directory
  journal : disk.find? (journalPlace place) = none
  issued : number < disk.issued

namespace Stands

variable {db : Database}

theorem ne_nil (h : disk.Stands number place db) : place ≠ [] := by
  rintro rfl
  have hbody := h.body
  cases hbody

theorem log_ne_directory (h : disk.Stands number place db) :
    disk.find? (logPlace place) ≠ some .directory := by
  rcases h.log with hlog | hlog <;> rw [hlog] <;> exact nofun

theorem frame (h : disk.Stands number place db) {n : Nat} {there : Place}
    (htouches : disk.Touches disk' n there) (hnumber : number ≠ n)
    (hplaces : ∀ other ∈ family place, other ∉ family there) : disk'.Stands number place db := by
  have hfind : ∀ other ∈ family place, disk'.find? other = disk.find? other :=
    fun other hother => htouches.find other (hplaces other hother)
  have hbody := hfind place (by simp [family])
  have hlog := hfind (logPlace place) (by simp [family])
  have hindex := hfind (indexPlace place) (by simp [family])
  have hjournal := hfind (journalPlace place) (by simp [family])
  constructor
  · rw [hbody]
    exact h.body
  · rw [htouches.database number hnumber]
    exact h.database
  · exact h.home
  · exact h.logged
  · exact h.under
  · exact h.reach
  · rw [hlog]
    exact h.log
  · rw [hlog]
    exact h.inUse
  · rw [hindex]
    exact h.index
  · rw [hjournal]
    exact h.journal
  · exact Nat.lt_of_lt_of_le h.issued htouches.issued

end Stands

end Disk

end Daybook
