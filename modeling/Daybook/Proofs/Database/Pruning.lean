import Daybook.Proofs.Database.Sharing
import Daybook.Proofs.Disk.Pruning

namespace Daybook

namespace Disk

/-- None of the files of a database is at another place or below it. -/
def IsApart (place q : Place) : Prop := ∀ there ∈ family place, there.IsOutside q

theorem isOutside_beside {place q : Place} (h : place.IsOutside q) {suffix : String}
    (hne : q ≠ place.beside suffix) : (place.beside suffix).IsOutside q := by
  rcases List.eq_nil_or_concat place with rfl | ⟨init, name, rfl⟩
  · exact h
  · rw [List.concat_eq_append] at h hne ⊢
    rw [Place.beside_concat] at hne ⊢
    intro hq
    rcases List.prefix_concat_iff.mp hq with heq | hinit
    · exact hne heq
    · exact h (hinit.trans (List.prefix_append init [name]))

theorem isApart_of_not_mem {place q : Place} (h : place.IsOutside q) (hq : q ∉ family place) :
    IsApart place q := by
  have hne : ∀ suffix, place.beside suffix ∈ family place →
      (place.beside suffix).IsOutside q := by
    intro suffix hmem
    exact isOutside_beside h fun heq => hq (heq ▸ hmem)
  intro there hthere
  have hcases : there = place ∨ ∃ suffix, there = place.beside suffix := by
    simp only [family, List.mem_cons, List.not_mem_nil, or_false] at hthere
    rcases hthere with rfl | rfl | rfl | rfl
    · exact Or.inl rfl
    · exact Or.inr ⟨_, rfl⟩
    · exact Or.inr ⟨_, rfl⟩
    · exact Or.inr ⟨_, rfl⟩
  rcases hcases with rfl | ⟨suffix, rfl⟩
  · exact h
  · exact hne suffix hthere

namespace IsApart

variable {place q : Place} (h : IsApart place q)
include h

theorem body : place.IsOutside q := h _ (by simp [family])

theorem log : (logPlace place).IsOutside q := h _ (by simp [family])

theorem index : (indexPlace place).IsOutside q := h _ (by simp [family])

theorem journal : (journalPlace place).IsOutside q := h _ (by simp [family])

end IsApart

variable {disk : Disk} {place q : Place}

section Place

variable (disk : Disk) (h : place.IsOutside q)
include h

theorem hasDirectory_prune : (disk.prune q).hasDirectory place = disk.hasDirectory place := by
  simp only [hasDirectory, find?_prune disk h]

theorem isInUse_prune : (disk.prune q).isInUse place = disk.isInUse place := by
  simp only [isInUse, find?_prune disk h, database?_prune]

theorem isNewBody_prune : (disk.prune q).isNewBody place = disk.isNewBody place := by
  simp only [isNewBody, find?_prune disk h]
  rfl

theorem holdsPart_prune (number : Nat) (part : Part) :
    (disk.prune q).holdsPart number part place = disk.holdsPart number part place := by
  simp only [holdsPart, find?_prune disk h]

theorem isOverwritten_prune (number : Nat) (part : Part) :
    (disk.prune q).isOverwritten number part place = disk.isOverwritten number part place := by
  simp only [isOverwritten, find?_prune disk h]

theorem bodyAt?_prune : (disk.prune q).bodyAt? place = disk.bodyAt? place := by
  simp only [bodyAt?, find?_prune disk h]

theorem eraseFile_prune : (disk.prune q).eraseFile place = (disk.eraseFile place).prune q := by
  simp only [eraseFile, hasDirectory_prune disk h, prune_erase]
  split <;> rfl

theorem putPart_prune (number : Nat) (part : Part) :
    (disk.prune q).putPart number part place = (disk.putPart number part place).prune q := by
  simp only [putPart, hasDirectory_prune disk h, prune_put disk h]
  split <;> rfl

end Place

section Family

variable (disk : Disk) (h : IsApart place q)
include h

theorem putSides_prune (number : Nat) (manner : Manner) :
    (disk.prune q).putSides number manner place =
      (disk.putSides number manner place).prune q := by
  cases manner with
  | logged => simp only [putSides, putPart_prune _ h.log, putPart_prune _ h.index]
  | loggedAlone => exact putPart_prune disk h.log number .log
  | direct => rfl
  | frozen => rfl

theorem hasOwnLog_prune (number : Nat) :
    (disk.prune q).hasOwnLog number place = disk.hasOwnLog number place := by
  simp only [hasOwnLog, holdsPart_prune disk h.log, isOverwritten_prune disk h.log]

theorem found_prune (address : Address) :
    (disk.prune q).found place address = (disk.found place address).map id (prune · q) := by
  have hadd : ∀ (disk : Disk) (db : Database), (disk.prune q).addDatabase db =
      ((disk.addDatabase db).1, (disk.addDatabase db).2.prune q) := fun _ _ => rfl
  simp only [found, hasDirectory_prune _ h.log, hasDirectory_prune _ h.index,
    hasDirectory_prune _ h.journal, prune_erase, hadd, prune_put _ h.body, prune_put _ h.log,
    putSides_prune _ h]
  repeat' split
  all_goals rfl

theorem clearJournal_prune :
    (disk.prune q).clearJournal place = (disk.clearJournal place).map id (prune · q) := by
  simp only [clearJournal, find?_prune disk h.journal, bytes?_prune, isInUse_prune disk h.body,
    prune_erase]
  repeat' split
  all_goals rfl

theorem awaken_prune (number : Nat) (db : Database) (address : Address) :
    (disk.prune q).awaken number db place address =
      (disk.awaken number db place address).map id (prune · q) := by
  simp only [awaken, hasDirectory_prune _ h.log, hasDirectory_prune _ h.index,
    bodyAt?_prune _ h.log, prune_putDatabase, putSides_prune _ h]
  repeat' split
  all_goals rfl

theorem share_prune (number : Nat) (db : Database) (intact : Bool) (bytes : List UInt8)
    (address : Address) :
    (disk.prune q).share number db place intact bytes address =
      (disk.share number db place intact bytes address).map id (prune · q) := by
  simp only [share, eraseFile_prune _ h.log, hasOwnLog_prune _ h, find?_prune _ h.log,
    prune_put _ h.log, prune_putDatabase]
  repeat' split
  all_goals rfl

theorem revive_prune (bytes : List UInt8) (address : Address) :
    (disk.prune q).revive place bytes address =
      (disk.revive place bytes address).map id (prune · q) := by
  simp only [revive, find?_prune _ h.log, database?_prune, prune_put _ h.body, prune_putDatabase,
    putSides_prune _ h]
  repeat' split
  all_goals rfl

theorem enter_prune (address : Address) :
    (disk.prune q).enter place address = (disk.enter place address).map id (prune · q) := by
  obtain ⟨first, hfirst, hpruned⟩ : ∃ first,
      (if address.manner == .frozen then (.ok (), disk) else disk.clearJournal place) = first ∧
        (if address.manner == .frozen then (.ok (), disk.prune q)
          else (disk.prune q).clearJournal place) = first.map id (prune · q) := by
    refine ⟨_, rfl, ?_⟩
    rw [clearJournal_prune disk h]
    split <;> rfl
  have hcopy : ∀ (disk : Disk) (db : Database),
      (disk.prune q).copy db = (disk.copy db).map id (prune · q) := fun _ _ => rfl
  unfold enter
  rw [hfirst, hpruned]
  rcases first with ⟨_ | _, next⟩
  · rfl
  · simp only [Prod.map_apply, id_eq, find?_prune next h.body, database?_prune, bytes?_prune, hcopy,
      share_prune next h, awaken_prune next h, revive_prune next h]
    repeat' split
    all_goals rfl

end Family

theorem followWords_prune (disk : Disk) {here : Place} {names : List String}
    (h : Path.AvoidsFrom q here (names.filter (!Path.isIdle ·))) :
    (disk.prune q).followWords here names = disk.followWords here names := by
  induction names generalizing here with
  | nil => rfl
  | cons name rest ih =>
      rw [followWords, followWords]
      cases hidle : Path.isIdle name with
      | true =>
          rw [List.filter_cons_of_neg (by simp [hidle])] at h
          simp only [if_true, ih h]
      | false =>
          rw [List.filter_cons_of_pos (by simp [hidle])] at h
          obtain ⟨hhere, h⟩ := h
          simp only [Bool.false_eq_true, if_false]
          split at h
          · rw [if_pos ‹_›, if_pos ‹_›, ih h]
          · rename_i hup
            simp only [hup, if_false, find?_prune disk hhere, ih h]

theorem eq_place_of_reach {whole path : String} {access : Access} {after : Disk}
    (h : disk.reach whole path access = (.ok place, after)) : place = Path.place path := by
  unfold reach at h
  split at h
  · cases h
  · rename_i hbody
    rw [← eq_place_of_bodyPlace? hbody]
    repeat' split at h
    all_goals cases h
    all_goals rfl

section Path

variable (disk : Disk) {path : String} (h : Path.Avoids q path)
include h

theorem bodyPlace?_prune : (disk.prune q).bodyPlace? path = disk.bodyPlace? path := by
  rw [bodyPlace?, bodyPlace?, followWords_prune disk h]
  cases hwords : disk.followWords (startOf path) (Path.parts path) with
  | none => rfl
  | some place =>
      have hplace : Place.IsOutside place.dropLast q := by
        rw [eq_of_followWords hwords]
        exact h.place.above (List.dropLast_prefix _)
      simp only [find?_prune disk hplace]

theorem reach_prune (whole : String) (access : Access) :
    (disk.prune q).reach whole path access =
      (disk.reach whole path access).map id (prune · q) := by
  rw [reach, reach, bodyPlace?_prune disk h]
  cases hbody : disk.bodyPlace? path with
  | none => rfl
  | some place =>
      have hplace : place.IsOutside q := by
        rw [eq_place_of_bodyPlace? hbody]
        exact h.place
      simp only [find?_prune disk hplace, prune_put disk hplace]
      repeat' split
      all_goals rfl

theorem connect_prune (hplain : Address.IsPlain path) (hq : q ∉ family (Path.place path)) :
    (disk.prune q).connect path = (disk.connect path).map id (prune · q) := by
  unfold Address.IsPlain at hplain
  simp only [connect, hplain, reach_prune disk h]
  rcases hreach : disk.reach path path .create with ⟨fault | place, next⟩
  · rfl
  · have hplace : IsApart place q := by
      rw [eq_place_of_reach hreach]
      exact isApart_of_not_mem h.place hq
    simp only [Prod.map_apply, id_eq, isNewBody_prune next hplace.body,
      isInUse_prune next hplace.body, found_prune next hplace, enter_prune next hplace]
    split <;> rfl

end Path

section InUse

variable {number : Nat} {c : Connection} {db : Database} {α : Type}

theorem HasDatabase.prune (h : disk.HasDatabase number place db) (hapart : IsApart place q) :
    (disk.prune q).HasDatabase number place db :=
  h.frame (fun there hthere => find?_prune disk (hapart there hthere)) rfl (Nat.le_refl _)

theorem InUse.prune (h : disk.InUse number place db) (hapart : IsApart place q) :
    (disk.prune q).InUse number place db :=
  ⟨h.toHasDatabase.prune hapart, h.users⟩

variable (h : disk.InUse c.number place db) (hapart : IsApart place q)
include h hapart

theorem commit_prune (change : Tables → Tables) :
    (disk.prune q).commit c change = (disk.commit c change).prune q := by
  have hhome : ∀ tables, (db.commit tables false).home = some place := by
    intro tables
    unfold Database.commit
    split <;> exact h.home
  simp only [commit, database?_prune, h.database, h.hasOverwrittenLog,
    (h.prune hapart).hasOverwrittenLog, refreshLog, hhome, prune_putDatabase,
    holdsPart_prune _ hapart.log, prune_put _ hapart.log]
  split <;> rfl

theorem queryTasks_prune (f : TaskTable → Except Error α) :
    (disk.prune q).queryTasks c f = disk.queryTasks c f := by
  simp only [queryTasks, taskTable, h.tables, (h.prune hapart).tables]

theorem queryReminders_prune (f : ReminderTable → Except Error α) :
    (disk.prune q).queryReminders c f = disk.queryReminders c f := by
  simp only [queryReminders, reminderTable, h.tables, (h.prune hapart).tables]

theorem changeTasks_prune (f : TaskTable → Except Error (α × TaskTable)) :
    (disk.prune q).changeTasks c f = (disk.changeTasks c f).map id (prune · q) := by
  simp only [changeTasks, queryTasks_prune h hapart, h.canCommit, (h.prune hapart).canCommit,
    putTasks, commit_prune h hapart]
  split <;> rfl

theorem changeReminders_prune (f : ReminderTable → Except Error (α × ReminderTable)) :
    (disk.prune q).changeReminders c f = (disk.changeReminders c f).map id (prune · q) := by
  simp only [changeReminders, queryReminders_prune h hapart, h.canCommit,
    (h.prune hapart).canCommit, putReminders, commit_prune h hapart]
  split <;> rfl

end InUse

end Disk

end Daybook
