import Daybook.Disk.Basic
import Daybook.Proofs.Except

namespace Daybook.Disk

/-- Every directory of the one disk is a directory of the other. -/
def KeepsDirectories (disk disk' : Disk) : Prop :=
  ∀ place, disk.find? place = some .directory → disk'.find? place = some .directory

variable {disk disk' : Disk} {path : String} {place : Place}

theorem KeepsDirectories.refl (disk : Disk) : disk.KeepsDirectories disk := fun _ h => h

theorem KeepsDirectories.trans {disk'' : Disk} (h : disk.KeepsDirectories disk')
    (h' : disk'.KeepsDirectories disk'') : disk.KeepsDirectories disk'' :=
  fun place hplace => h' place (h place hplace)

theorem keepsDirectories_put (h : disk.find? place ≠ some .directory) (entry : Entry) :
    disk.KeepsDirectories (disk.put place entry) := by
  intro there hthere
  have hne : there ≠ place := by
    rintro rfl
    exact h hthere
  rw [find?_put_of_ne disk entry hne, hthere]

theorem keepsDirectories_erase (h : disk.find? place ≠ some .directory) :
    disk.KeepsDirectories (disk.erase place) := by
  intro there hthere
  have hne : there ≠ place := by
    rintro rfl
    exact h hthere
  rw [find?_erase_of_ne disk hne, hthere]

theorem follow_eq_of_keepsDirectories (h : disk.KeepsDirectories disk') {here : Place}
    {parts : List String} {target : Target} (hfollow : disk.follow here parts = .ok target) :
    disk'.follow here parts = .ok target := by
  induction parts generalizing here with
  | nil => exact hfollow
  | cons part rest ih =>
      rw [follow] at hfollow ⊢
      split at hfollow
      · rw [if_pos ‹_›]
        exact ih hfollow
      · rw [if_neg ‹_›]
        split at hfollow
        · rw [if_pos ‹_›]
          exact ih hfollow
        · rw [if_neg ‹_›]
          dsimp only at hfollow ⊢
          split at hfollow
          · rw [if_pos ‹_›]
            exact hfollow
          · rw [if_neg ‹_›]
            split at hfollow
            · cases hfollow
            · rw [if_neg ‹_›]
              split at hfollow
              · cases hfollow
              · rename_i hdirectory
                rw [h _ hdirectory]
                exact ih hfollow
              · cases hfollow

theorem approach_eq_of_keepsDirectories (h : disk.KeepsDirectories disk') {target : Target}
    (happroach : disk.approach path = .ok target) : disk'.approach path = .ok target := by
  unfold approach at happroach ⊢
  split at happroach
  · cases happroach
  · rw [if_neg ‹_›]
    split at happroach
    · cases happroach
    · rw [if_neg ‹_›]
      split at happroach
      · cases happroach
      · rw [if_neg ‹_›]
        exact follow_eq_of_keepsDirectories h happroach

theorem resolve_eq_ok_iff {target : Target} :
    disk.resolve path = .ok target ↔ disk.approach path = .ok target ∧ target.isTooLong = false := by
  refine bind_eq_ok_iff.trans ⟨?_, ?_⟩
  · rintro ⟨found, happroach, h⟩
    split at h
    · cases h
    · cases h
      exact ⟨happroach, Bool.eq_false_iff.mpr ‹_›⟩
  · rintro ⟨happroach, hlong⟩
    refine ⟨target, happroach, ?_⟩
    rw [hlong]
    rfl

theorem resolve_eq_of_keepsDirectories (h : disk.KeepsDirectories disk') {target : Target}
    (hresolve : disk.resolve path = .ok target) : disk'.resolve path = .ok target := by
  obtain ⟨happroach, hlong⟩ := resolve_eq_ok_iff.mp hresolve
  exact resolve_eq_ok_iff.mpr ⟨approach_eq_of_keepsDirectories h happroach, hlong⟩

theorem openFile_eq_ok_iff :
    disk.openFile path = .ok place ↔
      disk.resolve path = .ok ⟨place, false⟩ ∧ disk.find? place ≠ some .directory := by
  rw [resolve_eq_ok_iff]
  unfold openFile
  cases disk.approach path with
  | error fault => exact ⟨nofun, nofun⟩
  | ok target =>
      obtain ⟨there, slash⟩ := target
      simp only [bind, Except.bind, Except.ok.injEq, Target.mk.injEq]
      constructor
      · intro h
        split at h
        · cases h
        · split at h
          · cases h
          · split at h
            · cases h
            · rename_i hslash hlong _ hdirectory
              cases h
              refine ⟨⟨⟨rfl, by simpa using hslash⟩, ?_⟩, hdirectory⟩
              simpa [Target.isTooLong] using hlong
      · rintro ⟨⟨⟨rfl, rfl⟩, hlong⟩, hdirectory⟩
        rw [if_neg Bool.false_ne_true, if_neg (by simpa [Target.isTooLong] using hlong)]
        split
        · exact absurd ‹_› hdirectory
        · rfl

theorem ne_nil_of_openFile (h : disk.openFile path = .ok place) : place ≠ [] := by
  rintro rfl
  exact (openFile_eq_ok_iff.mp h).2 rfl

def bytesAt (disk : Disk) (place : Place) : List UInt8 :=
  ((disk.find? place).bind disk.bytes?).getD []

theorem bytesAt_of_none (h : disk.find? place = none) : disk.bytesAt place = [] := by
  rw [bytesAt, h]
  rfl

theorem read_of_openFile (h : disk.openFile path = .ok place) :
    disk.read path =
      if disk.find? place = none then .error .notFound else .ok (disk.bytesAt place) := by
  obtain ⟨hresolve, hdirectory⟩ := openFile_eq_ok_iff.mp h
  cases hfind : disk.find? place with
  | none => simp [read, lookup, hresolve, hfind, bind, Except.bind]
  | some entry =>
      cases entry with
      | directory => exact absurd hfind hdirectory
      | file bytes =>
          simp [read, lookup, hresolve, hfind, bytesAt, bytes?, bind, Except.bind, pure, Except.pure]
      | part number part intact bytes =>
          simp [read, lookup, hresolve, hfind, bytesAt, bytes?, bind, Except.bind, pure, Except.pure]

theorem append_of_openFile (h : disk.openFile path = .ok place) (bytes : List UInt8) :
    ∃ after, disk.append path bytes = .ok after ∧ after.openFile path = .ok place ∧
      after.bytesAt place = disk.bytesAt place ++ bytes := by
  obtain ⟨hresolve, hdirectory⟩ := openFile_eq_ok_iff.mp h
  have hne := ne_nil_of_openFile h
  have hput : ∀ entry, entry ≠ .directory → (disk.put place entry).openFile path = .ok place := by
    intro entry hentry
    refine openFile_eq_ok_iff.mpr
      ⟨resolve_eq_of_keepsDirectories (keepsDirectories_put hdirectory entry) hresolve, ?_⟩
    rw [find?_put_self disk place entry hne]
    exact fun heq => hentry (Option.some.inj heq)
  simp only [append, h, bind, Except.bind, pure, Except.pure]
  cases hfind : disk.find? place with
  | none =>
      refine ⟨_, rfl, hput _ nofun, ?_⟩
      simp [bytesAt, hfind, find?_put_self disk place _ hne, bytes?]
  | some entry =>
      cases entry with
      | directory => exact absurd hfind hdirectory
      | file before =>
          refine ⟨_, rfl, hput _ nofun, ?_⟩
          simp [bytesAt, hfind, find?_put_self disk place _ hne, bytes?]
      | part number part intact before =>
          refine ⟨_, rfl, hput _ nofun, ?_⟩
          simp only [bytesAt, hfind, find?_put_self disk place _ hne, Option.bind_some, bytes?,
            Option.getD_some]
          cases intact with
          | false => rfl
          | true => exact (List.append_assoc ..).symm

theorem exists_openFile_of_append {after : Disk} {bytes : List UInt8}
    (h : disk.append path bytes = .ok after) : ∃ place, disk.openFile path = .ok place := by
  unfold append at h
  cases hopen : disk.openFile path with
  | error fault =>
      rw [hopen] at h
      cases h
  | ok place => exact ⟨place, rfl⟩

/-- The one disk has become the other by making directories. -/
structure GainsDirectories (disk disk' : Disk) : Prop where
  find : ∀ place, disk'.find? place = disk.find? place ∨
    (disk.find? place = none ∧ disk'.find? place = some .directory)
  databases : disk'.databases = disk.databases
  issued : disk'.issued = disk.issued

namespace GainsDirectories

theorem refl (disk : Disk) : disk.GainsDirectories disk := ⟨fun _ => Or.inl rfl, rfl, rfl⟩

theorem trans {disk'' : Disk} (h : disk.GainsDirectories disk')
    (h' : disk'.GainsDirectories disk'') : disk.GainsDirectories disk'' := by
  refine ⟨?_, h'.databases.trans h.databases, h'.issued.trans h.issued⟩
  intro place
  rcases h.find place with hsame | ⟨hnone, hnew⟩
  · rcases h'.find place with hsame' | ⟨hnone', hnew'⟩
    · exact Or.inl (hsame'.trans hsame)
    · exact Or.inr ⟨hsame ▸ hnone', hnew'⟩
  · rcases h'.find place with hsame' | ⟨hnone', -⟩
    · exact Or.inr ⟨hnone, hsame'.trans hnew⟩
    · rw [hnew] at hnone'
      cases hnone'

theorem keepsDirectories (h : disk.GainsDirectories disk') : disk.KeepsDirectories disk' := by
  intro place hplace
  rcases h.find place with hsame | ⟨-, hnew⟩
  · rw [hsame, hplace]
  · exact hnew

end GainsDirectories

theorem isDirectory_iff :
    disk.isDirectory path = true ↔
      ∃ target, disk.resolve path = .ok target ∧ disk.find? target.place = some .directory := by
  unfold isDirectory lookup
  cases disk.resolve path with
  | error fault => exact ⟨nofun, fun ⟨_, h, _⟩ => nomatch h⟩
  | ok target =>
      simp only [bind, Except.bind]
      constructor
      · intro h
        refine ⟨target, rfl, ?_⟩
        split at h
        · rename_i hlookup
          split at hlookup
          · cases hlookup
          · assumption
          · split at hlookup <;> cases hlookup
            contradiction
        · cases h
      · rintro ⟨_, ⟨⟩, hfind⟩
        rw [hfind]
        rfl

theorem isDirectory_of_keepsDirectories (h : disk.KeepsDirectories disk')
    (hdirectory : disk.isDirectory path = true) : disk'.isDirectory path = true := by
  obtain ⟨target, hresolve, hfind⟩ := isDirectory_iff.mp hdirectory
  exact isDirectory_iff.mpr ⟨target, resolve_eq_of_keepsDirectories h hresolve, h _ hfind⟩

theorem makeDirectory_eq_ok {after : Disk} (h : disk.makeDirectory path = .ok after) :
    disk.GainsDirectories after ∧ after.isDirectory path = true := by
  obtain ⟨target, hresolve, h⟩ := bind_eq_ok_iff.mp h
  split at h
  · cases h
  · rename_i hnone
    cases h
    have hne : target.place ≠ [] := by
      intro hroot
      rw [hroot] at hnone
      cases hnone
    have hself := find?_put_self disk target.place .directory hne
    have hgains : disk.GainsDirectories (disk.put target.place .directory) := by
      refine ⟨?_, rfl, rfl⟩
      intro place
      by_cases hplace : place = target.place
      · subst hplace
        exact Or.inr ⟨hnone, hself⟩
      · exact Or.inl (find?_put_of_ne disk _ hplace)
    exact ⟨hgains, isDirectory_iff.mpr
      ⟨target, resolve_eq_of_keepsDirectories hgains.keepsDirectories hresolve, hself⟩⟩

theorem makeDirectory_of_isDirectory (h : disk.isDirectory path = true) :
    disk.makeDirectory path = .error .exists := by
  obtain ⟨target, hresolve, hfind⟩ := isDirectory_iff.mp h
  simp [makeDirectory, hresolve, hfind, bind, Except.bind]

theorem ensureDirectory_spec (disk : Disk) (path : String) :
    disk.GainsDirectories (disk.ensureDirectory path).2 ∧
      ((disk.ensureDirectory path).1 = .ok () →
        (disk.ensureDirectory path).2.isDirectory path = true) := by
  unfold ensureDirectory
  split
  · obtain ⟨hgains, hdirectory⟩ := makeDirectory_eq_ok ‹_›
    exact ⟨hgains, fun _ => hdirectory⟩
  · refine ⟨GainsDirectories.refl disk, ?_⟩
    intro h
    dsimp only at h ⊢
    split at h
    · assumption
    · cases h

theorem ensureDirectory_of_isDirectory (h : disk.isDirectory path = true) :
    disk.ensureDirectory path = (.ok (), disk) := by
  rw [ensureDirectory, makeDirectory_of_isDirectory h]
  dsimp only
  rw [if_pos h]

theorem makeDirectoriesUpTo_spec (disk : Disk) (steps : Nat) (path : String) :
    disk.GainsDirectories (disk.makeDirectoriesUpTo steps path).2 ∧
      ((disk.makeDirectoriesUpTo steps path).1 = .ok () →
        path = "" ∨ (disk.makeDirectoriesUpTo steps path).2.isDirectory path = true) := by
  induction steps generalizing path with
  | zero =>
      obtain ⟨hgains, hdirectory⟩ := ensureDirectory_spec disk path
      exact ⟨hgains, fun h => Or.inr (hdirectory h)⟩
  | succ steps ih =>
      rw [makeDirectoriesUpTo]
      split
      · rename_i hempty
        exact ⟨GainsDirectories.refl disk, fun _ => Or.inl (beq_iff_eq.mp hempty)⟩
      · split
        · rename_i parent _ _
          have hparent := (ih parent).1
          split
          · rename_i after heq
            rw [heq] at hparent
            obtain ⟨hgains, hdirectory⟩ := ensureDirectory_spec after path
            exact ⟨hparent.trans hgains, fun h => Or.inr (hdirectory h)⟩
          · rename_i hfailed
            refine ⟨hparent, ?_⟩
            intro h
            exact (hfailed _ (Prod.ext h rfl)).elim
        · obtain ⟨hgains, hdirectory⟩ := ensureDirectory_spec disk path
          exact ⟨hgains, fun h => Or.inr (hdirectory h)⟩

theorem gainsDirectories_makeDirectories (disk : Disk) (path : String) :
    disk.GainsDirectories (disk.makeDirectories path).2 :=
  (makeDirectoriesUpTo_spec disk _ path).1

theorem makeDirectories_of_isDirectory (h : path = "" ∨ disk.isDirectory path = true) :
    disk.makeDirectories path = (.ok (), disk) := by
  rw [makeDirectories, makeDirectoriesUpTo]
  split
  · rfl
  · rename_i hempty
    have hdirectory : disk.isDirectory path = true := by
      rcases h with rfl | hdirectory
      · exact absurd rfl hempty
      · exact hdirectory
    rw [makeDirectory_of_isDirectory hdirectory]
    exact ensureDirectory_of_isDirectory hdirectory

theorem gainsDirectories_ensureParent (disk : Disk) (path : String) :
    disk.GainsDirectories (disk.ensureParent path).2 := by
  unfold ensureParent
  split
  · exact GainsDirectories.refl disk
  · split
    · exact GainsDirectories.refl disk
    · exact gainsDirectories_makeDirectories disk _

end Daybook.Disk
