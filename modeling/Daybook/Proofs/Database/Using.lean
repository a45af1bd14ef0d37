import Daybook.Proofs.Database.Standing

namespace Daybook

/-- A path names a file of a database, and says nothing else about how it is used. -/
def Address.IsPlain (path : String) : Prop := ofPath path = .ok ⟨.file path, .create, .logged⟩

/-- A log that has its beginning does not lose it unless it is overwritten. -/
theorem Database.reachAfter_ne_remainder {db : Database} (h : db.log ≠ .remainder) :
    db.reachAfter false ≠ .remainder := by
  unfold Database.reachAfter
  split
  · exact nofun
  · cases hlog : db.log with
    | nothing => exact nofun
    | changes => exact nofun
    | everything => exact nofun
    | remainder => exact absurd hlog h

namespace Disk

variable {disk disk' : Disk} {number : Nat} {place : Place} {db : Database}

section Sides

variable (disk : Disk) (hne : place ≠ [])
include hne

theorem find?_putSides_log (hlog : disk.find? (logPlace place) ≠ some .directory) (n : Nat) :
    (disk.putSides n .logged place).find? (logPlace place) = some (.part n .log true []) := by
  rw [putSides, find?_putPart_of_ne (logPlace_ne_indexPlace hne)]
  exact find?_putPart_self (logPlace_ne_nil hne) hlog .log

theorem find?_putSides_index (hindex : disk.find? (indexPlace place) ≠ some .directory) (n : Nat) :
    (disk.putSides n .logged place).find? (indexPlace place) = some (.part n .index true []) := by
  rw [putSides]
  refine find?_putPart_self (indexPlace_ne_nil hne) ?_ .index
  rw [find?_putPart_of_ne (logPlace_ne_indexPlace hne).symm]
  exact hindex

theorem find?_clearSides_log (hlog : disk.find? (logPlace place) ≠ some .directory) :
    (disk.clearSides place).find? (logPlace place) = none := by
  rw [clearSides, find?_eraseFile_of_ne (logPlace_ne_indexPlace hne)]
  exact find?_eraseFile_self (logPlace_ne_nil hne) hlog

theorem find?_clearSides_index (hindex : disk.find? (indexPlace place) ≠ some .directory) :
    (disk.clearSides place).find? (indexPlace place) = none := by
  rw [clearSides]
  refine find?_eraseFile_self (indexPlace_ne_nil hne) ?_
  rw [find?_eraseFile_of_ne (logPlace_ne_indexPlace hne).symm]
  exact hindex

end Sides

theorem find?_putSides_of_ne (disk : Disk) {other : Place} (hlog : other ≠ logPlace place)
    (hindex : other ≠ indexPlace place) (n : Nat) :
    (disk.putSides n .logged place).find? other = disk.find? other := by
  rw [putSides, find?_putPart_of_ne hindex, find?_putPart_of_ne hlog]

theorem find?_clearSides_of_ne (disk : Disk) {other : Place} (hlog : other ≠ logPlace place)
    (hindex : other ≠ indexPlace place) :
    (disk.clearSides place).find? other = disk.find? other := by
  rw [clearSides, find?_eraseFile_of_ne hindex, find?_eraseFile_of_ne hlog]

@[simp] theorem database?_putSides (n : Nat) (manner : Manner) (other : Nat) :
    (disk.putSides n manner place).database? other = disk.database? other := by
  rw [database?, databases_putSides]
  rfl

@[simp] theorem database?_clearSides (other : Nat) :
    (disk.clearSides place).database? other = disk.database? other := by
  rw [database?, databases_clearSides]
  rfl

theorem isNewBody_eq_false {bytes : List UInt8}
    (h : disk.find? place = some (.part number .body true bytes)) :
    disk.isNewBody place = false := by
  have hbytes : (disk.find? place).bind disk.bytes? = some (List.replicate 4096 1 ++ bytes) := by
    rw [h]
    rfl
  rw [isNewBody, hbytes]
  simp only [List.length_append, List.length_replicate, decide_eq_false_iff_not]
  omega

section Path

variable {path : String} {bytes : List UInt8} (hplain : Address.IsPlain path)
  (hplace : disk.bodyPlace? path = some place)
  (hbody : disk.find? place = some (.part number .body true bytes))
include hplain hplace hbody

theorem connect_of_body :
    disk.connect path = disk.enter place ⟨.file path, .create, .logged⟩ := by
  unfold Address.IsPlain at hplain
  unfold connect
  rw [hplain]
  simp only [reach, hplace, hbody, isNewBody_eq_false hbody, Bool.false_and, Bool.false_eq_true,
    if_false]

theorem visit_of_body :
    disk.visit path =
      match disk.enter place ⟨.file path, .create, .logged⟩ with
      | (.ok c, after) => (.ok (some c), after)
      | (.error fault, after) => (.error fault, after) := by
  unfold Address.IsPlain at hplain
  rcases henter : disk.enter place ⟨.file path, .create, .logged⟩ with ⟨fault | c, after⟩ <;>
    simp only [visit, hplain, reach, hplace, hbody, isNewBody_eq_false hbody, Bool.false_eq_true,
      if_false, henter]

end Path

namespace Stands

theorem hasOverwrittenLog (h : disk.Stands number place db) :
    disk.hasOverwrittenLog number db = false := by
  rw [Disk.hasOverwrittenLog, h.home]
  rcases h.log with hlog | hlog <;> simp [isOverwritten, hlog]

theorem clearJournal (h : disk.Stands number place db) :
    disk.clearJournal place = (.ok (), disk) := by
  rw [Disk.clearJournal, h.journal]

theorem hasOwnLog (h : disk.Stands number place db) (hopen : db.isOpen = true) :
    disk.hasOwnLog number place = true := by
  simp [Disk.hasOwnLog, holdsPart, isOverwritten, h.inUse hopen]

theorem bodyAt?_log (h : disk.Stands number place db) : disk.bodyAt? (logPlace place) = none := by
  rw [bodyAt?]
  rcases h.log with hlog | hlog <;> rw [hlog]

theorem enter_logged (h : disk.Stands number place db) :
    ({ db.enter with logged := true, under := disk.bodyAt? (logPlace place) } : Database) =
      db.enter := by
  rw [h.bodyAt?_log, ← h.logged, ← h.under]
  rfl

/-- The log and the index are put beside a database that is entered after a time without users. -/
theorem awaken (h : disk.Stands number place db) (site : Site) :
    ∃ after, disk.awaken number db place ⟨site, .create, .logged⟩ = (.ok ⟨number, true⟩, after) ∧
      after.Stands number place db.enter ∧ disk.Touches after number place := by
  have hne := h.ne_nil
  let entered := disk.putDatabase number db.enter
  have htouches : disk.Touches (entered.putSides number .logged place) number place :=
    (Touches.putDatabase disk number db.enter place).trans (Touches.putSides entered number number place)
  refine ⟨entered.putSides number .logged place, ?_, ?_, htouches⟩
  · rw [Disk.awaken, hasDirectory_eq_false h.log_ne_directory, hasDirectory_eq_false h.index,
      h.enter_logged]
    rfl
  · have hlog := find?_putSides_log entered hne h.log_ne_directory number
    have hindex := find?_putSides_index entered hne h.index number
    refine ⟨?_, ?_, h.home, h.logged, h.under, h.reach, Or.inr hlog, fun _ => hlog, ?_, ?_, ?_⟩
    · rw [find?_putSides_of_ne entered (logPlace_ne hne).symm (indexPlace_ne hne).symm]
      exact h.body
    · rw [database?_putSides]
      exact database?_putDatabase_self disk number db.enter
    · rw [hindex]
      exact nofun
    · rw [find?_putSides_of_ne entered (journalPlace_ne_logPlace hne)
        (journalPlace_ne_indexPlace hne)]
      exact h.journal
    · exact Nat.lt_of_lt_of_le h.issued htouches.issued

theorem putDatabase (h : disk.Stands number place db) (new : Database) (hhome : new.home = db.home)
    (hlogged : new.logged = db.logged) (hunder : new.under = db.under) (hreach : new.log ≠ .remainder)
    (hopen : new.isOpen = true → db.isOpen = true) :
    (disk.putDatabase number new).Stands number place new where
  body := h.body
  database := database?_putDatabase_self disk number new
  home := hhome.trans h.home
  logged := hlogged.trans h.logged
  under := hunder.trans h.under
  reach := hreach
  log := h.log
  inUse hnew := h.inUse (hopen hnew)
  index := h.index
  journal := h.journal
  issued := h.issued

theorem share (h : disk.Stands number place db) (hopen : db.isOpen = true) (site : Site) :
    ∃ after, disk.share number db place true [] ⟨site, .create, .logged⟩ =
        (.ok ⟨number, true⟩, after) ∧
      after.Stands number place db.enter ∧ disk.Touches after number place := by
  refine ⟨disk.putDatabase number db.enter, ?_, ?_, Touches.putDatabase disk number db.enter place⟩
  · have hreach : (db.log == .remainder) = false := beq_eq_false_iff_ne.mpr h.reach
    rw [Disk.share, h.hasOwnLog hopen, hreach]
    simp [connection]
  · exact h.putDatabase db.enter rfl rfl rfl h.reach fun _ => hopen

theorem enter (h : disk.Stands number place db) (site : Site) :
    ∃ after, disk.enter place ⟨site, .create, .logged⟩ = (.ok ⟨number, true⟩, after) ∧
      after.Stands number place db.enter ∧ disk.Touches after number place := by
  have hmanner : ((⟨site, .create, .logged⟩ : Address).manner == .frozen) = false := rfl
  unfold Disk.enter
  rw [hmanner, h.clearJournal]
  simp only [Bool.false_eq_true, if_false, h.body, h.database]
  by_cases hopen : db.isOpen = true
  · rw [if_pos hopen]
    exact h.share hopen site
  · rw [if_neg hopen]
    exact h.awaken site

theorem connect (h : disk.Stands number place db) {path : String} (hplain : Address.IsPlain path)
    (hbody : disk.bodyPlace? path = some place) :
    ∃ after, disk.connect path = (.ok ⟨number, true⟩, after) ∧
      after.Stands number place db.enter ∧ disk.Touches after number place := by
  rw [connect_of_body hplain hbody h.body]
  exact h.enter (.file path)

theorem visit (h : disk.Stands number place db) {path : String} (hplain : Address.IsPlain path)
    (hbody : disk.bodyPlace? path = some place) :
    ∃ after, disk.visit path = (.ok (some ⟨number, true⟩), after) ∧
      after.Stands number place db.enter ∧ disk.Touches after number place := by
  obtain ⟨after, henter, hstands, htouches⟩ := h.enter (.file path)
  rw [visit_of_body hplain hbody h.body, henter]
  exact ⟨after, rfl, hstands, htouches⟩

theorem tables (h : disk.Stands number place db) (writable : Bool) :
    disk.tables ⟨number, writable⟩ = .ok db.tables := by
  refine tables_eq_ok_iff.mpr ⟨db, h.database, rfl, ?_, ?_⟩
  · simp [isDamaged, h.home, isOverwritten, isBuried, h.body]
  · rw [h.hasOverwrittenLog, Bool.and_false]

theorem canCommit (h : disk.Stands number place db) (writable : Bool) :
    disk.canCommit ⟨number, writable⟩ = true := by
  simp [Disk.canCommit, h.database, hasLostBody, h.home, h.logged]

theorem commit (h : disk.Stands number place db) (writable : Bool) (change : Tables → Tables) :
    ∃ new, (disk.commit ⟨number, writable⟩ change).Stands number place new ∧
      new.tables = change db.tables ∧
      disk.Touches (disk.commit ⟨number, writable⟩ change) number place := by
  have hne := h.ne_nil
  let new : Database :=
    { db with tables := change db.tables, log := db.reachAfter false }
  have hnew : db.commit (change db.tables) false = new := by
    rw [Database.commit, if_pos h.logged]
  have hcommit : disk.commit ⟨number, writable⟩ change =
      (disk.putDatabase number new).refreshLog number new := by
    simp only [Disk.commit, h.database, h.hasOverwrittenLog, hnew]
  have hput := h.putDatabase new rfl rfl rfl (Database.reachAfter_ne_remainder h.reach) id
  have htouches := Touches.putDatabase disk number new place
  rw [hcommit, refreshLog, hput.home]
  dsimp only
  split
  · have hself := find?_put_self (disk.putDatabase number new) (logPlace place)
      (.part number .log true []) (logPlace_ne_nil hne)
    have hother : ∀ other, other ≠ logPlace place →
        ((disk.putDatabase number new).put (logPlace place) (.part number .log true [])).find?
          other = disk.find? other := fun other hother => find?_put_of_ne _ _ hother
    refine ⟨new, ⟨?_, hput.database, hput.home, hput.logged, hput.under, hput.reach, Or.inr hself,
      fun _ => hself, ?_, ?_, hput.issued⟩, rfl,
      htouches.trans (Touches.put (by simp [family]) hput.log_ne_directory _ number)⟩
    · rw [hother _ (logPlace_ne hne).symm]
      exact h.body
    · rw [hother _ (logPlace_ne_indexPlace hne).symm]
      exact h.index
    · rw [hother _ (journalPlace_ne_logPlace hne)]
      exact h.journal
  · exact ⟨new, hput, rfl, htouches⟩

theorem clearSides (h : disk.Stands number place db) (hopen : db.isOpen = false) :
    (disk.clearSides place).Stands number place db := by
  have hne := h.ne_nil
  have hlog := find?_clearSides_log disk hne h.log_ne_directory
  refine ⟨?_, ?_, h.home, h.logged, h.under, h.reach, Or.inl hlog, ?_, ?_, ?_, ?_⟩
  · rw [find?_clearSides_of_ne disk (logPlace_ne hne).symm (indexPlace_ne hne).symm]
    exact h.body
  · rw [database?_clearSides]
    exact h.database
  · rw [hopen]
    exact nofun
  · rw [find?_clearSides_index disk hne h.index]
    exact nofun
  · rw [find?_clearSides_of_ne disk (journalPlace_ne_logPlace hne)
      (journalPlace_ne_indexPlace hne)]
    exact h.journal
  · exact Nat.lt_of_lt_of_le h.issued (Touches.clearSides disk number place).issued

theorem putBody (h : disk.Stands number place db) :
    (disk.put place (.part number .body true [])).Stands number place db := by
  have hne := h.ne_nil
  have hother : ∀ other, other ≠ place →
      (disk.put place (.part number .body true [])).find? other = disk.find? other :=
    fun other hother => find?_put_of_ne disk _ hother
  refine ⟨find?_put_self disk place _ hne, h.database, h.home, h.logged, h.under, h.reach, ?_, ?_, ?_, ?_,
    h.issued⟩
  · rw [hother _ (logPlace_ne hne)]
    exact h.log
  · rw [hother _ (logPlace_ne hne)]
    exact h.inUse
  · rw [hother _ (indexPlace_ne hne)]
    exact h.index
  · rw [hother _ (journalPlace_ne hne)]
    exact h.journal

theorem settle (h : disk.Stands number place db) (hopen : db.isOpen = false) :
    ∃ new, (disk.settle number db place true []).Stands number place new ∧
      new.tables = db.tables ∧
      disk.Touches (disk.settle number db place true []) number place := by
  have habsorb : db.log ≠ .nothing → disk.settle number db place true [] =
      ((disk.put place (.part number .body true [])).putDatabase number db.absorbed).clearSides
        place := by
    intro hlog
    unfold Disk.settle
    cases hreach : db.log with
    | nothing => exact absurd hreach hlog
    | remainder => exact absurd hreach h.reach
    | changes => rcases h.log with hfind | hfind <;> rw [hfind] <;> rfl
    | everything => rcases h.log with hfind | hfind <;> rw [hfind] <;> rfl
  by_cases hlog : db.log = .nothing
  · have hclear : disk.settle number db place true [] = disk.clearSides place := by
      simp only [Disk.settle, hlog, h.logged, if_true]
    rw [hclear]
    exact ⟨db, h.clearSides hopen, rfl, Touches.clearSides disk number place⟩
  · rw [habsorb hlog]
    have hput := h.putBody.putDatabase db.absorbed rfl rfl rfl nofun id
    refine ⟨db.absorbed, hput.clearSides hopen, rfl, ?_⟩
    have hbody : disk.find? place ≠ some .directory := by
      rw [h.body]
      exact nofun
    exact ((Touches.put (by simp [family]) hbody _ number).trans
      (Touches.putDatabase _ number db.absorbed place)).trans (Touches.clearSides _ number place)

theorem disconnect (h : disk.Stands number place db) :
    ∃ new, (disk.disconnect ⟨number, true⟩).Stands number place new ∧ new.tables = db.tables ∧
      disk.Touches (disk.disconnect ⟨number, true⟩) number place := by
  have hleave : (disk.putDatabase number db.leave).Stands number place db.leave := by
    refine h.putDatabase db.leave rfl rfl rfl h.reach ?_
    intro hopen
    have hpositive : 0 < db.users - 1 := of_decide_eq_true hopen
    exact decide_eq_true (by omega)
  have htouches := Touches.putDatabase disk number db.leave place
  unfold Disk.disconnect
  rw [h.database]
  dsimp only
  cases hopen : db.leave.isOpen with
  | true => exact ⟨db.leave, hleave, rfl, htouches⟩
  | false =>
      rw [hleave.home]
      simp only [Option.map_some, hleave.body, if_true]
      obtain ⟨new, hnew, htables, hsettle⟩ := hleave.settle hopen
      exact ⟨new, hnew, htables, htouches.trans hsettle⟩

end Stands

end Disk

end Daybook
