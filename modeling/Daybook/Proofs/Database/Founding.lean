import Daybook.Proofs.Database.Using
import Daybook.Proofs.Disk.Paths

namespace Daybook.Disk

variable {disk after : Disk} {place : Place} {path : String}

def HasNoPart (disk : Disk) (there : Place) : Prop :=
  ∀ number part intact bytes, disk.find? there ≠ some (.part number part intact bytes)

theorem HasNoPart.gain {there : Place} (h : disk.HasNoPart there)
    (hgains : disk.GainsDirectories after) : after.HasNoPart there := by
  intro number part intact bytes hpart
  rcases hgains.find there with hsame | ⟨-, hnew⟩
  · rw [hsame] at hpart
    exact h number part intact bytes hpart
  · rw [hnew] at hpart
    cases hpart

theorem isInUse_of_file {bytes : List UInt8} (h : disk.find? place = some (.file bytes)) :
    disk.isInUse place = false := by
  rw [isInUse, h]

theorem reach_eq_ok {found : Place} (hbody : disk.bodyPlace? path = some place)
    (hpart : disk.HasNoPart place) (h : disk.reach path path .create = (.ok found, after)) :
    found = place ∧ disk.find? place ≠ some .directory ∧
      (∃ bytes, after.find? place = some (.file bytes)) ∧
      (after = disk ∨ after = disk.put place (.file [])) := by
  have hne : place ≠ [] := by
    rintro rfl
    have := (bodyPlace?_eq_some_iff.mp hbody).2.1
    simp at this
  unfold reach at h
  rw [hbody] at h
  dsimp only at h
  cases hfind : disk.find? place with
  | none =>
      rw [hfind] at h
      cases h
      exact ⟨rfl, nofun, ⟨[], find?_put_self disk place _ hne⟩, Or.inr rfl⟩
  | some entry =>
      rw [hfind] at h
      cases entry with
      | directory => cases h
      | file bytes =>
          cases h
          exact ⟨rfl, nofun, ⟨bytes, hfind⟩, Or.inl rfl⟩
      | part number part intact bytes => exact absurd hfind (hpart number part intact bytes)

theorem clearJournal_cases (disk : Disk) (place : Place) :
    (disk.clearJournal place).2 = disk ∨
      (disk.find? (journalPlace place) ≠ some .directory ∧
        (disk.clearJournal place).2 = disk.erase (journalPlace place)) := by
  unfold clearJournal
  split
  · exact Or.inl rfl
  · rename_i entry hentry hfind
    split
    · exact Or.inl rfl
    · split
      · exact Or.inl rfl
      · refine Or.inr ⟨?_, rfl⟩
        rw [hfind]
        exact fun h => hentry (Option.some.inj h)
  · exact Or.inl rfl

theorem enter_ne_ok {bytes : List UInt8} (hfile : disk.find? place = some (.file bytes))
    (hlog : disk.HasNoPart (logPlace place)) (hne : place ≠ []) (address : Address)
    (c : Connection) : disk.enter place address ≠ (.ok c, after) := by
  intro h
  unfold enter at h
  split at h
  · cases h
  · rename_i next heq
    have hclear : next = disk ∨ (disk.find? (journalPlace place) ≠ some .directory ∧
        next = disk.erase (journalPlace place)) := by
      split at heq
      · cases heq
        exact Or.inl rfl
      · have hcases := clearJournal_cases disk place
        rw [heq] at hcases
        exact hcases
    have hnext : next.find? place = some (.file bytes) ∧ next.HasNoPart (logPlace place) := by
      rcases hclear with rfl | ⟨-, rfl⟩
      · exact ⟨hfile, hlog⟩
      · refine ⟨?_, ?_⟩
        · rw [find?_erase_of_ne disk (journalPlace_ne hne).symm, hfile]
        · intro number part intact junk
          rw [find?_erase_of_ne disk (journalPlace_ne_logPlace hne).symm]
          exact hlog number part intact junk
    rw [hnext.1] at h
    dsimp only at h
    unfold revive at h
    split at h
    · exact hnext.2 _ _ _ _ ‹_›
    · cases h
    · cases h

theorem Touches.addDatabase (disk : Disk) (db : Database) (place : Place) :
    disk.Touches (disk.addDatabase db).2 disk.issued place where
  find _ _ := rfl
  database _ hother := database?_putDatabase_of_ne disk db hother
  issued := Nat.le_succ _
  directories := fun _ h => h

/-- Something stands where the log and the index of a database belong. -/
def HasSides (disk : Disk) (place : Place) : Prop :=
  disk.find? (logPlace place) ≠ none ∧ disk.find? (indexPlace place) ≠ none

theorem stands_putSides (hne : place ≠ []) (hplace : disk.find? place ≠ some .directory)
    (hlog : disk.find? (logPlace place) ≠ some .directory)
    (hindex : disk.find? (indexPlace place) ≠ some .directory)
    (hjournal : disk.find? (journalPlace place) = none) (db : Database)
    (hhome : db.home = some place) (hlogged : db.logged = true)
    (hunder : db.under = none) (hreach : db.log = .nothing) :
    ((((disk.addDatabase db).2.put place (.part disk.issued .body true [])).putSides disk.issued
        .logged place).Stands disk.issued place db) ∧
      (((disk.addDatabase db).2.put place (.part disk.issued .body true [])).putSides disk.issued
        .logged place).HasSides place ∧
      disk.Touches (((disk.addDatabase db).2.put place (.part disk.issued .body true [])).putSides
        disk.issued .logged place) disk.issued place := by
  have hother : ∀ other, other ≠ place →
      ((disk.addDatabase db).2.put place (.part disk.issued .body true [])).find? other =
        disk.find? other := fun other hother => find?_put_of_ne (disk.addDatabase db).2 _ hother
  have hself : ((disk.addDatabase db).2.put place (.part disk.issued .body true [])).find? place =
      some (.part disk.issued .body true []) := find?_put_self (disk.addDatabase db).2 place _ hne
  have hput : disk.Touches ((disk.addDatabase db).2.put place (.part disk.issued .body true []))
      disk.issued place := by
    have hplace' : (disk.addDatabase db).2.find? place ≠ some .directory := hplace
    exact (Touches.addDatabase disk db place).trans
      (Touches.put (by simp [family]) hplace' _ disk.issued)
  have hdatabase : ((disk.addDatabase db).2.put place
      (.part disk.issued .body true [])).database? disk.issued = some db :=
    database?_putDatabase_self disk disk.issued db
  have hissued : disk.issued < ((disk.addDatabase db).2.put place
      (.part disk.issued .body true [])).issued := Nat.lt_succ_self _
  generalize (disk.addDatabase db).2.put place (.part disk.issued .body true []) = start at *
  have hsides := Touches.putSides start disk.issued disk.issued place
  rw [← hother _ (logPlace_ne hne)] at hlog
  rw [← hother _ (indexPlace_ne hne)] at hindex
  rw [← hother _ (journalPlace_ne hne)] at hjournal
  have hnewLog := find?_putSides_log start hne hlog disk.issued
  have hnewIndex := find?_putSides_index start hne hindex disk.issued
  refine ⟨⟨?_, ?_, hhome, hlogged, hunder, ?_, Or.inr hnewLog, fun _ => hnewLog, ?_, ?_, ?_⟩,
    ⟨by simp [hnewLog], by simp [hnewIndex]⟩, hput.trans hsides⟩
  · rw [find?_putSides_of_ne start (logPlace_ne hne).symm (indexPlace_ne hne).symm]
    exact hself
  · rw [database?_putSides]
    exact hdatabase
  · simp [hreach]
  · simp [hnewIndex]
  · rw [find?_putSides_of_ne start (journalPlace_ne_logPlace hne)
      (journalPlace_ne_indexPlace hne)]
    exact hjournal
  · exact Nat.lt_of_lt_of_le hissued hsides.issued

theorem found_eq_ok {c : Connection} {bytes : List UInt8} {site : Site}
    (hfile : disk.find? place = some (.file bytes)) (hne : place ≠ [])
    (h : disk.found place ⟨site, .create, .logged⟩ = (.ok c, after)) :
    c = ⟨disk.issued, true⟩ ∧
      (∃ db, after.Stands disk.issued place db ∧ db.tables = .empty ∧ db.isOpen = true) ∧
      after.HasSides place ∧ disk.Touches after disk.issued place := by
  have hbody : disk.find? place ≠ some .directory := by
    simp [hfile]
  unfold found at h
  dsimp only at h
  split at h
  · rename_i hrefused
    cases hrefused
  · split at h
    · cases h
    · split at h
      · cases h
      · split at h
        · cases h
        · rename_i hlog hjournal
          have hlog := of_decide_eq_false (Bool.eq_false_iff.mpr hlog)
          have hjournal := of_decide_eq_false (Bool.eq_false_iff.mpr hjournal)
          let clean := (disk.erase (journalPlace place)).erase (logPlace place)
          have hclean : disk.Touches clean disk.issued place := by
            refine (Touches.erase (by simp [family]) hjournal disk.issued).trans
              (Touches.erase (by simp [family]) ?_ disk.issued)
            rw [find?_erase_of_ne disk (journalPlace_ne_logPlace hne).symm]
            exact hlog
          have hother : ∀ other, other ≠ logPlace place → other ≠ journalPlace place →
              clean.find? other = disk.find? other := by
            intro other hlog hjournal
            rw [find?_erase_of_ne _ hlog, find?_erase_of_ne _ hjournal]
          split at h
          · cases h
          · rename_i hindex
            cases h
            have hindex : clean.find? (indexPlace place) ≠ some .directory :=
              of_decide_eq_false (Bool.eq_false_iff.mpr hindex)
            have hgone : clean.find? (logPlace place) = none :=
              find?_erase_self _ (logPlace_ne_nil hne)
            have hplace := hother place (logPlace_ne hne).symm (journalPlace_ne hne).symm
            have hnone : clean.find? (journalPlace place) = none := by
              rw [find?_erase_of_ne _ (journalPlace_ne_logPlace hne)]
              exact find?_erase_self disk (journalPlace_ne_nil hne)
            obtain ⟨hstands, hsides, htouches⟩ := stands_putSides hne (hplace ▸ hbody)
              (by simp [hgone]) hindex hnone { Database.atRest .empty place true with users := 1 }
              rfl rfl rfl rfl
            exact ⟨rfl, ⟨_, hstands, rfl, rfl⟩, hsides, hclean.trans htouches⟩

/-- A database that is opened where none stands is new. -/
theorem connect_eq_ok {c : Connection} (hplain : Address.IsPlain path)
    (hbody : disk.bodyPlace? path = some place)
    (hparts : ∀ there ∈ family place, disk.HasNoPart there)
    (h : disk.connect path = (.ok c, after)) :
    c = ⟨disk.issued, true⟩ ∧ disk.find? place ≠ some .directory ∧
      (∃ db, after.Stands disk.issued place db ∧ db.tables = .empty ∧ db.isOpen = true) ∧
      after.HasSides place ∧ disk.Touches after disk.issued place := by
  have hne : place ≠ [] := by
    rintro rfl
    have := (bodyPlace?_eq_some_iff.mp hbody).2.1
    simp at this
  unfold Address.IsPlain at hplain
  unfold connect at h
  rw [hplain] at h
  dsimp only at h
  split at h
  · cases h
  · rename_i found next hreach
    obtain ⟨rfl, hdirectory, ⟨bytes, hfile⟩, hnext⟩ :=
      reach_eq_ok hbody (hparts place (by simp [family])) hreach
    have htouches : disk.Touches next disk.issued found := by
      rcases hnext with rfl | rfl
      · exact Touches.refl next _ _
      · exact Touches.put (by simp [family]) hdirectory _ _
    have hissued : next.issued = disk.issued := by
      rcases hnext with rfl | rfl <;> rfl
    rw [isInUse_of_file hfile] at h
    split at h
    · obtain ⟨hc, hstands, hsides, hfound⟩ := found_eq_ok hfile hne h
      rw [hissued] at hc hstands hfound
      exact ⟨hc, hdirectory, hstands, hsides, htouches.trans hfound⟩
    · have hlog : next.HasNoPart (logPlace found) := by
        intro number part intact junk
        rcases hnext with rfl | rfl
        · exact hparts _ (by simp [family]) number part intact junk
        · rw [find?_put_of_ne disk _ (logPlace_ne hne)]
          exact hparts _ (by simp [family]) number part intact junk
      exact absurd h (enter_ne_ok hfile hlog hne _ c)

end Daybook.Disk
