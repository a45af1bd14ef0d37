import Daybook.Proofs.Database.Founding

namespace Daybook.Disk

variable {disk disk' : Disk} {path : String} {place : Place}

/-- What stands at a place is no directory. -/
def HasFile (disk : Disk) (there : Place) : Prop :=
  ∃ entry, disk.find? there = some entry ∧ entry ≠ .directory

/-- The same directories are on both disks, and files in the same places, whatever is in them. -/
def SameLayout (disk disk' : Disk) : Prop :=
  ∀ there, disk'.find? there = disk.find? there ∨ disk.HasFile there ∧ disk'.HasFile there

namespace SameLayout

theorem of_find (h : ∀ there, disk'.find? there = disk.find? there) : disk.SameLayout disk' :=
  fun there => .inl (h there)

theorem refl (disk : Disk) : disk.SameLayout disk := .of_find fun _ => rfl

theorem find?_ne_none (h : disk.SameLayout disk') {there : Place}
    (hthere : disk.find? there ≠ none) : disk'.find? there ≠ none := by
  rcases h there with hsame | ⟨-, entry, hfind, -⟩
  · rw [hsame]
    exact hthere
  · rw [hfind]
    exact nofun

theorem follow (h : disk.SameLayout disk') (here : Place) (parts : List String) :
    disk'.follow here parts = disk.follow here parts := by
  induction parts generalizing here with
  | nil => rfl
  | cons part rest ih =>
      rw [Disk.follow, Disk.follow]
      simp only [ih]
      rcases h (here ++ [part]) with hsame | ⟨⟨_, hfind, hfile⟩, ⟨_, hfind', hfile'⟩⟩
      · rw [hsame]
      · -- A file is no directory, so both paths end here.
        simp only [hfind, hfind']

theorem approach (h : disk.SameLayout disk') (path : String) :
    disk'.approach path = disk.approach path := by
  rw [Disk.approach, Disk.approach, h.follow]

theorem resolve (h : disk.SameLayout disk') (path : String) :
    disk'.resolve path = disk.resolve path := by
  rw [Disk.resolve, Disk.resolve, h.approach]

theorem openFile (h : disk.SameLayout disk') (path : String) :
    disk'.openFile path = disk.openFile path := by
  unfold Disk.openFile
  rw [h.approach]
  cases disk.approach path with
  | error fault => rfl
  | ok target =>
      rcases h target.place with hsame | ⟨⟨entry, hfind, hfile⟩, ⟨entry', hfind', hfile'⟩⟩
      · simp only [bind, Except.bind, hsame]
      · simp only [bind, Except.bind, hfind, hfind']
        cases entry <;> cases entry' <;> first | rfl | contradiction

end SameLayout

def HasPart (disk : Disk) (there : Place) : Prop :=
  ∃ number part intact bytes, disk.find? there = some (.part number part intact bytes)

theorem HasPart.hasFile {there : Place} (h : disk.HasPart there) : disk.HasFile there := by
  obtain ⟨number, part, intact, bytes, hfind⟩ := h
  exact ⟨_, hfind, nofun⟩

theorem HasNoPart.not_hasPart {there : Place} (h : disk.HasNoPart there) : ¬disk.HasPart there := by
  rintro ⟨number, part, intact, bytes, hfind⟩
  exact h number part intact bytes hfind

/-- At each place stands the same on both disks, or a part of a database on both. -/
def Resembles (disk disk' : Disk) : Prop :=
  ∀ there, disk'.find? there = disk.find? there ∨ disk.HasPart there ∧ disk'.HasPart there

namespace Resembles

theorem of_find (h : ∀ there, disk'.find? there = disk.find? there) : disk.Resembles disk' :=
  fun there => .inl (h there)

theorem refl (disk : Disk) : disk.Resembles disk := .of_find fun _ => rfl

theorem sameLayout (h : disk.Resembles disk') : disk.SameLayout disk' :=
  fun there => (h there).imp_right fun hparts => ⟨hparts.1.hasFile, hparts.2.hasFile⟩

theorem find (h : disk.Resembles disk') {there : Place} (hpart : disk.HasNoPart there) :
    disk'.find? there = disk.find? there :=
  (h there).resolve_right fun hparts => hpart.not_hasPart hparts.1

end Resembles

theorem HasNoPart.of_find {there : Place} (h : disk.HasNoPart there)
    (hsame : disk'.find? there = disk.find? there) : disk'.HasNoPart there := by
  intro number part intact bytes hfind
  rw [hsame] at hfind
  exact h number part intact bytes hfind

theorem eq_place_of_follow {here : Place} {names : List String} {target : Target}
    (h : disk.follow here names = .ok target) :
    target.place = (names.filter (!Path.isIdle ·)).foldl
      (fun here step => if step = ".." then here.dropLast else here ++ [step]) here := by
  induction names generalizing here with
  | nil =>
      cases h
      rfl
  | cons name rest ih =>
      rw [follow] at h
      split at h
      · rename_i hidle
        rw [List.filter_cons_of_neg (by simp [hidle])]
        exact ih h
      · rename_i hidle
        rw [List.filter_cons_of_pos (by simpa using hidle), List.foldl_cons]
        split at h
        · rw [if_pos ‹_›]
          exact ih h
        · rw [if_neg ‹_›]
          dsimp only at h
          split at h
          · rename_i hblank
            cases h
            rw [Path.filter_not_idle_of_blank hblank]
            rfl
          · split at h
            · cases h
            · split at h
              · cases h
              · exact ih h
              · cases h

theorem eq_place_of_resolve {target : Target} (h : disk.resolve path = .ok target) :
    target.place = Path.place path :=
  eq_place_of_follow (follow_of_resolve h).1

theorem eq_place_of_openFile (h : disk.openFile path = .ok place) : place = Path.place path :=
  eq_place_of_resolve (openFile_eq_ok_iff.mp h).1

/-- A file that is no part of a database is read alike where all paths lead to the same places. -/
theorem SameLayout.read (h : disk.SameLayout disk')
    (hsame : disk'.find? (Path.place path) = disk.find? (Path.place path))
    (hpart : disk.HasNoPart (Path.place path)) : disk'.read path = disk.read path := by
  unfold Disk.read lookup
  rw [h.resolve]
  cases hresolve : disk.resolve path with
  | error fault => rfl
  | ok target =>
      simp only [bind, Except.bind, eq_place_of_resolve hresolve, hsame]
      cases hfind : disk.find? (Path.place path) with
      | none => rfl
      | some entry =>
          cases entry with
          | directory => rfl
          | file bytes => cases target.slash <;> rfl
          | part number part intact bytes => exact absurd hfind (hpart _ _ _ _)

theorem hasPart_of_holdsPart {number : Nat} {part : Part} {there : Place}
    (h : disk.holdsPart number part there = true) : disk.HasPart there := by
  unfold holdsPart at h
  split at h
  · exact ⟨_, _, _, _, ‹_›⟩
  · cases h

theorem resembles_refreshLog (disk : Disk) (number : Nat) (db : Database) :
    disk.Resembles (disk.refreshLog number db) := by
  unfold refreshLog
  split
  · exact .refl disk
  · split
    · rename_i home _ hlog
      intro there
      by_cases hthere : there = logPlace home
      · subst hthere
        exact .inr ⟨hasPart_of_holdsPart hlog, number, .log, true, [],
          find?_put_self disk _ _ (holdsPart_ne_nil hlog)⟩
      · exact .inl (find?_put_of_ne disk _ hthere)
    · exact .refl disk

section Tables

variable {c : Connection} {α : Type}

theorem resembles_commit (disk : Disk) (c : Connection) (change : Tables → Tables) :
    disk.Resembles (disk.commit c change) := by
  unfold commit
  split
  · exact .refl disk
  · exact resembles_refreshLog (disk.putDatabase c.number _) _ _

theorem resembles_changeTasks (disk : Disk) (f : TaskTable → Except Error (α × TaskTable)) :
    disk.Resembles (disk.changeTasks c f).2 := by
  unfold changeTasks
  split
  · split
    · exact resembles_commit disk c _
    · exact .refl disk
  · exact .refl disk

theorem resembles_changeReminders (disk : Disk)
    (f : ReminderTable → Except Error (α × ReminderTable)) :
    disk.Resembles (disk.changeReminders c f).2 := by
  unfold changeReminders
  split
  · split
    · exact resembles_commit disk c _
    · exact .refl disk
  · exact .refl disk

end Tables

/-- The disk with what stands at a place from now on, or nothing. -/
def setAt (disk : Disk) (place : Place) : Option Entry → Disk
  | some entry => disk.put place entry
  | none => disk.erase place

theorem find?_setAt_self (disk : Disk) (hne : place ≠ []) (entry : Option Entry) :
    (disk.setAt place entry).find? place = entry := by
  cases entry with
  | none => exact find?_erase_self disk hne
  | some entry => exact find?_put_self disk place entry hne

theorem find?_setAt_of_ne (disk : Disk) {there : Place} (hne : there ≠ place)
    (entry : Option Entry) : (disk.setAt place entry).find? there = disk.find? there := by
  cases entry with
  | none => exact find?_erase_of_ne disk hne
  | some entry => exact find?_put_of_ne disk entry hne

/-- An operation fails, or sets what stands at a place where no directory is, and no part of a database
is set there. Which of these it does depends on what stands at the place, and on the layout. -/
def Rewrites {ε : Type} (place : Place) (op : Disk → Except ε Disk) : Prop :=
  ∀ {disk disk' : Disk}, disk.SameLayout disk' → disk'.find? place = disk.find? place →
    disk.HasNoPart place →
    (∃ e, op disk = .error e ∧ op disk' = .error e) ∨
      ∃ entry : Option Entry, op disk = .ok (disk.setAt place entry) ∧
        op disk' = .ok (disk'.setAt place entry) ∧ disk.find? place ≠ some .directory ∧
        ∀ number part intact bytes, entry ≠ some (.part number part intact bytes)

theorem rewrites_append (path : String) (bytes : List UInt8) :
    Rewrites (Path.place path) (append · path bytes) := by
  intro disk disk' h hsame hpart
  dsimp only
  unfold append
  rw [h.openFile]
  cases hopen : disk.openFile path with
  | error fault => exact Or.inl ⟨fault, rfl, rfl⟩
  | ok place =>
      obtain rfl := eq_place_of_openFile hopen
      obtain ⟨-, hdirectory⟩ := openFile_eq_ok_iff.mp hopen
      simp only [bind, Except.bind, hsame]
      cases hfind : disk.find? (Path.place path) with
      | none => exact Or.inr ⟨some (.file bytes), rfl, rfl, nofun, nofun⟩
      | some entry =>
          cases entry with
          | directory => exact absurd hfind hdirectory
          | file before => exact Or.inr ⟨some (.file (before ++ bytes)), rfl, rfl, nofun, nofun⟩
          | part number part intact before => exact absurd hfind (hpart _ _ _ _)

theorem hasNoPart_append {bytes : List UInt8} (h : disk.append path bytes = .ok disk')
    (hpart : disk.HasNoPart (Path.place path)) : disk'.HasNoPart (Path.place path) := by
  rcases rewrites_append path bytes (.refl disk) rfl hpart with
    ⟨_, herror, -⟩ | ⟨entry, hok, -, hdirectory, hnew⟩
  · cases h.symm.trans herror
  · obtain rfl := Except.ok.inj (h.symm.trans hok)
    have hne : Path.place path ≠ [] := by
      intro hroot
      rw [hroot] at hdirectory
      exact hdirectory rfl
    intro number part intact bytes
    rw [find?_setAt_self disk hne]
    exact hnew number part intact bytes

theorem append_eq_ok {bytes : List UInt8} (h : disk.append path bytes = .ok disk') :
    ∃ entry, entry ≠ .directory ∧ disk' = disk.put (Path.place path) entry := by
  unfold append at h
  cases hopen : disk.openFile path with
  | error fault =>
      rw [hopen] at h
      cases h
  | ok place =>
      obtain rfl := eq_place_of_openFile hopen
      simp only [hopen, bind, Except.bind] at h
      split at h <;> cases h <;> refine ⟨_, ?_, rfl⟩ <;> exact nofun

theorem append_of_file {before bytes : List UInt8} (h : disk.append path bytes = .ok disk')
    (hfind : disk.find? (Path.place path) = some (.file before)) :
    disk' = disk.put (Path.place path) (.file (before ++ bytes)) := by
  unfold append at h
  cases hopen : disk.openFile path with
  | error fault =>
      rw [hopen] at h
      cases h
  | ok place =>
      obtain rfl := eq_place_of_openFile hopen
      simp only [hopen, bind, Except.bind, hfind] at h
      exact (Except.ok.inj h).symm

theorem find?_append_of_ne {bytes : List UInt8} (h : disk.append path bytes = .ok disk')
    (hne : place ≠ Path.place path) : disk'.find? place = disk.find? place := by
  obtain ⟨entry, -, rfl⟩ := append_eq_ok h
  exact find?_put_of_ne disk entry hne

theorem sameLayout_append {bytes : List UInt8} (h : disk.append path bytes = .ok disk')
    (hthere : disk.find? (Path.place path) ≠ none) : disk.SameLayout disk' := by
  intro there
  by_cases hplace : there = Path.place path
  · subst hplace
    obtain ⟨place, hopen⟩ := exists_openFile_of_append h
    obtain rfl := eq_place_of_openFile hopen
    obtain ⟨entry, hfile, rfl⟩ := append_eq_ok h
    obtain ⟨before, hbefore⟩ := Option.ne_none_iff_exists'.mp hthere
    have hdirectory : before ≠ .directory := by
      rintro rfl
      exact (openFile_eq_ok_iff.mp hopen).2 hbefore
    exact .inr ⟨⟨before, hbefore, hdirectory⟩,
      ⟨entry, find?_put_self disk _ entry (ne_nil_of_openFile hopen), hfile⟩⟩
  · exact .inl (find?_append_of_ne h hplace)

theorem rewrites_write (path : String) (bytes : List UInt8) :
    Rewrites (Path.place path) (write · path bytes) := by
  intro disk disk' h hsame hpart
  dsimp only
  unfold write
  rw [h.openFile]
  cases hopen : disk.openFile path with
  | error fault => exact Or.inl ⟨fault, rfl, rfl⟩
  | ok place =>
      obtain rfl := eq_place_of_openFile hopen
      obtain ⟨-, hdirectory⟩ := openFile_eq_ok_iff.mp hopen
      have hfile : ∀ disk' : Disk, disk'.find? (Path.place path) = disk.find? (Path.place path) →
          disk'.replaced bytes (disk'.find? (Path.place path)) = .file bytes := by
        intro disk' hsame
        rw [hsame]
        cases hfind : disk.find? (Path.place path) with
        | none => rfl
        | some entry =>
            cases entry with
            | directory => rfl
            | file before => rfl
            | part number part intact before => exact absurd hfind (hpart _ _ _ _)
      simp only [bind, Except.bind, hfile disk rfl, hfile disk' hsame]
      exact Or.inr ⟨some (.file bytes), rfl, rfl, hdirectory, nofun⟩

theorem rewrites_remove (path : String) : Rewrites (Path.place path) (remove · path) := by
  intro disk disk' h hsame hpart
  dsimp only
  unfold remove
  rw [h.resolve]
  cases hresolve : disk.resolve path with
  | error fault => exact Or.inl ⟨fault, rfl, rfl⟩
  | ok target =>
      have hplace := eq_place_of_resolve hresolve
      simp only [bind, Except.bind, hsame, hplace]
      cases hfind : disk.find? (Path.place path) with
      | none => exact Or.inl ⟨.notFound, rfl, rfl⟩
      | some entry =>
          cases entry with
          | directory => exact Or.inl ⟨.isDirectory, rfl, rfl⟩
          | part number part intact before => exact absurd hfind (hpart _ _ _ _)
          | file before =>
              cases target.slash with
              | true => exact Or.inl ⟨.notDirectory, rfl, rfl⟩
              | false => exact Or.inr ⟨none, rfl, rfl, nofun, nofun⟩

theorem rewrites_makeDirectory (path : String) :
    Rewrites (Path.place path) (makeDirectory · path) := by
  intro disk disk' h hsame hpart
  dsimp only
  unfold makeDirectory
  rw [h.resolve]
  cases hresolve : disk.resolve path with
  | error fault => exact Or.inl ⟨fault, rfl, rfl⟩
  | ok target =>
      have hplace := eq_place_of_resolve hresolve
      simp only [bind, Except.bind, hsame, hplace]
      cases hfind : disk.find? (Path.place path) with
      | none => exact Or.inr ⟨some .directory, rfl, rfl, nofun, nofun⟩
      | some entry => exact Or.inl ⟨.exists, rfl, rfl⟩

end Daybook.Disk
