import Daybook.Daemon.Handler
import Daybook.Proofs.Database.Commit
import Daybook.Proofs.Reminder.Row
import Daybook.Proofs.Store.Lasting
import Daybook.Proofs.Store.Opening

namespace Daybook

/-- A store and the disk after some requests. The first store is opened where there are no databases;
it may be left, and another one opened in its place. The clock shows years of four digits. -/
inductive Reached : Store → Disk → Prop
  | opened {config : Config} {disk after : Disk} {store : Store} (hnew : disk.databases = [])
      (hopen : Store.openAt config disk = (.ok store, after)) : Reached store after
  | answered {daemon : Daemon} {disk : Disk} {now : Instant} (h : Reached daemon.store disk)
      (hnow : now.HasPlainYear) (frame : Frame) :
      Reached daemon.store (daemon.answer now frame disk).2
  | reopened {config : Config} {store next : Store} {disk after : Disk} (h : Reached store disk)
      (hopen : Store.openAt config (store.close disk) = (.ok next, after)) : Reached next after

namespace Store

variable {store : Store} {title : String} {minutes : Int} {now : Instant} {disk : Disk}

/-- A reminder is entered whose time lies beyond what is read from a table. -/
def EntersUnreadable (store : Store) (title : String) (minutes : Int) (now : Instant)
    (disk : Disk) : Prop :=
  ∃ trigger table, Reminder.triggerTime? now minutes = .ok trigger ∧ 9999 < trigger.year ∧
    isBlankText title = false ∧ disk.reminderTable store.reminders = .ok table ∧
    store.reminders.writable = true ∧ disk.canCommit store.reminders = true

/-- The table of reminders has one row more, and one identifier more has been given out. -/
def HasOneReminderMore (store : Store) (disk after : Disk) : Prop :=
  ∃ table row, disk.reminderTable store.reminders = .ok table ∧
    after.reminderTable store.reminders = .ok ⟨table.rows ++ [row], table.lastId + 1⟩

theorem HasOneReminderMore.ne {after : Disk} (h : store.HasOneReminderMore disk after) :
    after ≠ disk := by
  rintro rfl
  obtain ⟨table, row, hbefore, hafter⟩ := h
  rw [hbefore] at hafter
  have hlast : table.lastId = table.lastId + 1 :=
    congrArg ReminderTable.lastId (Except.ok.inj hafter)
  omega

theorem changeReminders_create {trigger : Instant} {table : ReminderTable}
    (hblank : isBlankText title = false) (htable : disk.reminderTable store.reminders = .ok table)
    (hwrite : store.reminders.writable = true) (hcommit : disk.canCommit store.reminders = true) :
    disk.changeReminders store.reminders (fun table => table.create title trigger now) =
      (.ok (table.lastId + 1), disk.putReminders store.reminders
        ⟨table.rows ++ [Reminder.row ⟨table.lastId + 1, title, trigger, .active, now⟩],
          table.lastId + 1⟩) :=
  Disk.changeReminders_eq_ok_iff.mpr
    ⟨table, _, htable, hwrite, hcommit, ReminderTable.create_eq hblank table trigger now, rfl⟩

theorem createReminder_failed (h : disk.IsCounted) (hnow : now.HasPlainYear) {e : Error}
    (hfail : (store.createReminder title minutes now disk).1 = .error e) :
    (store.EntersUnreadable title minutes now disk ∧
        store.HasOneReminderMore disk (store.createReminder title minutes now disk).2) ∨
      (¬store.EntersUnreadable title minutes now disk ∧
        (store.createReminder title minutes now disk).2 = disk) := by
  unfold createReminder at hfail ⊢
  cases htrigger : Reminder.triggerTime? now minutes with
  | error fault =>
      refine Or.inr ⟨?_, rfl⟩
      rintro ⟨_, _, hok, _⟩
      rw [htrigger] at hok
      cases hok
  | ok trigger =>
      rw [htrigger] at hfail
      dsimp only at hfail ⊢
      cases hblank : isBlankText title with
      | true =>
          refine Or.inr ⟨?_, rfl⟩
          rintro ⟨_, _, _, _, hfull, _⟩
          rw [hblank] at hfull
          cases hfull
      | false =>
          rw [hblank, if_neg Bool.false_ne_true] at hfail
          rw [if_neg Bool.false_ne_true]
          generalize hchange : disk.changeReminders store.reminders
            (fun table => table.create title trigger now) = result at hfail ⊢
          obtain ⟨result, after⟩ := result
          cases result with
          | error fault =>
              refine Or.inr ⟨?_, ?_⟩
              · rintro ⟨_, table, _, _, _, htable, hwrite, hcommit⟩
                rw [changeReminders_create hblank htable hwrite hcommit] at hchange
                cases hchange
              · have hsame := Disk.changeReminders_of_error (congrArg Prod.fst hchange)
                rw [hchange] at hsame
                exact hsame
          | ok id =>
              obtain ⟨table, _, htable, hwrite, hcommit, -⟩ :=
                Disk.changeReminders_eq_ok_iff.mp hchange
              rw [changeReminders_create hblank htable hwrite hcommit] at hchange
              cases hchange
              let r : Reminder := ⟨table.lastId + 1, title, trigger, .active, now⟩
              have hafter := Disk.reminderTable_putReminders htable
                ⟨table.rows ++ [r.row], table.lastId + 1⟩
              have hread : r.row.read = .error e := by
                rw [← ReminderTable.get_append_of_isCounted
                  (Disk.isCounted_of_reminderTable h htable) rfl (table.lastId + 1)]
                dsimp only at hfail
                rw [Disk.queryReminders, hafter] at hfail
                exact hfail
              have hlate : 9999 < trigger.year :=
                Reminder.lt_year_of_read_row (r := r) hnow htrigger hread
              exact Or.inl ⟨⟨trigger, table, htrigger, hlate, hblank, htable, hwrite, hcommit⟩,
                table, r.row, htable, hafter⟩

theorem createReminder_of_entersUnreadable (h : disk.IsCounted)
    (henters : store.EntersUnreadable title minutes now disk) :
    ∃ e, (store.createReminder title minutes now disk).1 = .error e := by
  obtain ⟨trigger, table, htrigger, hlate, hblank, htable, hwrite, hcommit⟩ := henters
  let r : Reminder := ⟨table.lastId + 1, title, trigger, .active, now⟩
  have hafter := Disk.reminderTable_putReminders htable ⟨table.rows ++ [r.row], table.lastId + 1⟩
  have hread : ReminderTable.get ⟨table.rows ++ [r.row], table.lastId + 1⟩ (table.lastId + 1) =
      r.row.read :=
    ReminderTable.get_append_of_isCounted (Disk.isCounted_of_reminderTable h htable) rfl _
  have hlate : ¬r.triggerTime.HasPlainYear := fun hplain => absurd hplain.2 (Int.not_le.mpr hlate)
  rw [Reminder.read_row_of_not_plain hlate] at hread
  rw [createReminder, htrigger]
  dsimp only
  rw [hblank, if_neg Bool.false_ne_true, changeReminders_create hblank htable hwrite hcommit]
  dsimp only
  rw [Disk.queryReminders, hafter]
  exact ⟨_, hread⟩

theorem appendNote_failed {content : String} {e : Error}
    (hfail : (store.appendNote content now disk).1 = .error e) :
    (store.appendNote content now disk).2 = disk := by
  unfold appendNote at hfail ⊢
  split at hfail
  · cases hfail
  · rfl

theorem createTask_failed {task : NewTask} {e : Error}
    (hfail : (store.createTask task now disk).1 = .error e) :
    (store.createTask task now disk).2 = disk := by
  unfold createTask at hfail ⊢
  split at hfail
  · rfl
  · exact Disk.changeTasks_of_error hfail

end Store

theorem Outcome.of_ofStore {P : Disk → Prop} {α : Type} {yield : α → Payload}
    {result : Except Error α × Disk} (h : P result.2) : P (Outcome.ofStore yield result).2 := by
  obtain ⟨_ | _, _⟩ := result <;> exact h

theorem Outcome.of_withParams {P : Disk → Prop} (h : P disk) {α : Type}
    {params : Except ParamError α} {go : α → Outcome} (hgo : ∀ a, P (go a).2) :
    P (Outcome.withParams params disk go).2 := by
  cases params with
  | ok a => exact hgo a
  | error e => exact h

theorem Outcome.error_of_ofStore {α : Type} {yield : α → Payload} {result : Except Error α × Disk}
    {f : Failure} (h : (Outcome.ofStore yield result).1 = .error f) :
    ∃ e, result.1 = .error e ∧ (Outcome.ofStore yield result).2 = result.2 := by
  obtain ⟨result, disk⟩ := result
  cases result with
  | ok a => cases h
  | error e => exact ⟨e, rfl, rfl⟩

theorem Method.name_of_ofName? {text : String} {m : Method} (h : ofName? text = some m) :
    m.name = text := by
  have hname := List.find?_some (p := fun m : Method => m.name == text) h
  exact beq_iff_eq.mp hname

namespace Daemon

open Outcome

variable {daemon : Daemon} {now : Instant} {disk : Disk} {f : Failure}

def EntersUnreadable (daemon : Daemon) (now : Instant) (frame : Frame) (disk : Disk) : Prop :=
  ∃ params title minutes, daemon.request frame = .ok ⟨Method.createReminder.name, params⟩ ∧
    reminderTerms daemon.config params = .ok (title, minutes) ∧
    daemon.store.EntersUnreadable title minutes now disk

theorem perform_failed {method : Method} (hmethod : method ≠ .createReminder) {params : Params}
    (hfail : (daemon.perform now method params disk).1 = .error f) :
    (daemon.perform now method params disk).2 = disk := by
  have hparams : ∀ {α : Type} {found : Except ParamError α} {go : α → Outcome},
      (∀ a, (go a).1 = .error f → (go a).2 = disk) →
      (withParams found disk go).1 = .error f → (withParams found disk go).2 = disk := by
    intro α found go hgo h
    cases found with
    | ok a => exact hgo a h
    | error e => rfl
  have hstore : ∀ {α : Type} {yield : α → Payload} {result : Except Error α × Disk},
      (∀ e, result.1 = .error e → result.2 = disk) →
      (ofStore yield result).1 = .error f → (ofStore yield result).2 = disk := by
    intro α yield result hresult h
    obtain ⟨e, he, hsame⟩ := error_of_ofStore h
    rw [hsame]
    exact hresult e he
  cases method with
  | takeNote => exact hparams (fun _ => hstore fun _ => Store.appendNote_failed) hfail
  | searchNotes => exact hparams (fun _ => hstore fun _ _ => rfl) hfail
  | createTask => exact hparams (fun _ => hstore fun _ => Store.createTask_failed) hfail
  | listTasks => exact hstore (fun _ _ => rfl) hfail
  | completeTask => exact hparams (fun _ => hstore fun _ => Disk.changeTasks_of_error) hfail
  | createReminder => exact absurd rfl hmethod
  | listReminders => exact hstore (fun _ _ => rfl) hfail
  | cancelReminder => exact hparams (fun _ => hstore fun _ => Disk.changeReminders_of_error) hfail

theorem createReminder_failed (h : disk.IsCounted) (hnow : now.HasPlainYear) {params : Params}
    (hfail : (daemon.perform now .createReminder params disk).1 = .error f) :
    (∃ title minutes, reminderTerms daemon.config params = .ok (title, minutes) ∧
        daemon.store.EntersUnreadable title minutes now disk ∧
        daemon.store.HasOneReminderMore disk (daemon.perform now .createReminder params disk).2) ∨
      ((∀ title minutes, reminderTerms daemon.config params = .ok (title, minutes) →
          ¬daemon.store.EntersUnreadable title minutes now disk) ∧
        (daemon.perform now .createReminder params disk).2 = disk) := by
  unfold perform at hfail ⊢
  dsimp only at hfail ⊢
  cases hterms : reminderTerms daemon.config params with
  | error e => exact Or.inr ⟨nofun, rfl⟩
  | ok terms =>
      obtain ⟨title, minutes⟩ := terms
      rw [hterms] at hfail
      dsimp only [withParams] at hfail ⊢
      obtain ⟨e, he, hsame⟩ := error_of_ofStore hfail
      rw [hsame]
      rcases Store.createReminder_failed h hnow he with ⟨henters, hmore⟩ | ⟨henters, hdisk⟩
      · exact Or.inl ⟨title, minutes, rfl, henters, hmore⟩
      · refine Or.inr ⟨?_, hdisk⟩
        rintro _ _ ⟨⟩
        exact henters

end Daemon

theorem Disk.All.answer {A : TaskTable → Prop} {B : ReminderTable → Prop} {disk : Disk}
    (h : disk.All A B) (hlasting : IsLasting A B) (daemon : Daemon) (now : Instant) (frame : Frame) :
    (daemon.answer now frame disk).2.All A B := by
  unfold Daemon.answer
  split
  · exact h
  · rename_i request _
    change (daemon.invoke now request.method request.params disk).2.All A B
    unfold Daemon.invoke
    split
    · exact h
    · rename_i method _
      cases method with
      | takeNote =>
          exact Outcome.of_withParams h fun _ => Outcome.of_ofStore (h.appendNote _ _ _)
      | searchNotes => exact Outcome.of_withParams h fun _ => Outcome.of_ofStore h
      | createTask =>
          exact Outcome.of_withParams h fun _ => Outcome.of_ofStore (h.createTask hlasting _ _ _)
      | listTasks => exact Outcome.of_ofStore h
      | completeTask =>
          exact Outcome.of_withParams h fun _ => Outcome.of_ofStore (h.completeTask hlasting _ _ _)
      | createReminder =>
          exact Outcome.of_withParams h fun _ =>
            Outcome.of_ofStore (h.createReminder hlasting _ _ _ _)
      | listReminders => exact Outcome.of_ofStore h
      | cancelReminder =>
          exact Outcome.of_withParams h fun _ => Outcome.of_ofStore (h.cancelReminder hlasting _ _)

theorem Reached.isKeyed {store : Store} {disk : Disk} (h : Reached store disk) : disk.IsKeyed := by
  induction h with
  | opened hnew hopen =>
      rename_i config disk after store
      have hafter := (Disk.All.of_databases_nil hnew).openAt isLasting_isKeyed config
      rw [hopen] at hafter
      exact hafter
  | answered _ _ frame ih => exact ih.answer isLasting_isKeyed _ _ frame
  | reopened _ hopen ih =>
      rename_i config store next disk after _
      have hafter := (ih.close store).openAt isLasting_isKeyed config
      rw [hopen] at hafter
      exact hafter

theorem Reached.isCounted {store : Store} {disk : Disk} (h : Reached store disk) :
    disk.IsCounted := h.isKeyed.isCounted

namespace Daemon

theorem exists_error_of_isSuccess {result : Except Failure Payload}
    (h : (Response.ofResult result).isSuccess = false) : ∃ f, result = .error f := by
  cases result with
  | ok payload => cases h
  | error f => exact ⟨f, rfl⟩

theorem answer_failed {daemon : Daemon} {disk : Disk} (h : disk.IsCounted) {now : Instant}
    (hnow : now.HasPlainYear) {frame : Frame}
    (hfail : (daemon.answer now frame disk).1.isSuccess = false) :
    (daemon.EntersUnreadable now frame disk ∧
        daemon.store.HasOneReminderMore disk (daemon.answer now frame disk).2) ∨
      (¬daemon.EntersUnreadable now frame disk ∧ (daemon.answer now frame disk).2 = disk) := by
  unfold answer at hfail ⊢
  cases hrequest : daemon.request frame with
  | error e =>
      refine Or.inr ⟨?_, rfl⟩
      rintro ⟨_, _, _, hok, _⟩
      rw [hrequest] at hok
      cases hok
  | ok request =>
      rw [hrequest] at hfail
      dsimp only at hfail ⊢
      unfold invoke at hfail ⊢
      cases hname : Method.ofName? request.method with
      | none =>
          refine Or.inr ⟨?_, rfl⟩
          rintro ⟨_, _, _, hok, _⟩
          rw [hrequest] at hok
          cases hok
          cases hname
      | some method =>
          rw [hname] at hfail
          dsimp only at hfail ⊢
          obtain ⟨f, hf⟩ := exists_error_of_isSuccess hfail
          by_cases hmethod : method = .createReminder
          · subst hmethod
            have hmethod := Method.name_of_ofName? hname
            rcases createReminder_failed h hnow hf with
              ⟨title, minutes, hterms, henters, hmore⟩ | ⟨hnone, hsame⟩
            · refine Or.inl ⟨⟨request.params, title, minutes, ?_, hterms, henters⟩, hmore⟩
              rw [hrequest, hmethod]
            · refine Or.inr ⟨?_, hsame⟩
              rintro ⟨_, title, minutes, hok, hterms, henters⟩
              rw [hrequest] at hok
              cases hok
              exact hnone title minutes hterms henters
          · refine Or.inr ⟨?_, perform_failed hmethod hf⟩
            rintro ⟨_, _, _, hok, _⟩
            rw [hrequest] at hok
            cases hok
            rw [Method.ofName?_name] at hname
            cases hname
            exact hmethod rfl

theorem isSuccess_of_entersUnreadable {daemon : Daemon} {disk : Disk} (h : disk.IsCounted)
    {now : Instant} {frame : Frame} (henters : daemon.EntersUnreadable now frame disk) :
    (daemon.answer now frame disk).1.isSuccess = false := by
  obtain ⟨params, title, minutes, hrequest, hterms, henters⟩ := henters
  obtain ⟨e, he⟩ := Store.createReminder_of_entersUnreadable h henters
  rw [answer, hrequest]
  dsimp only
  rw [invoke, Method.ofName?_name]
  dsimp only
  rw [perform, hterms]
  dsimp only [Outcome.withParams]
  generalize daemon.store.createReminder title minutes now disk = result at he
  obtain ⟨result, after⟩ := result
  obtain rfl : result = .error e := he
  rfl

/-- A request that fails changes nothing on the disk, unless an unreadable row is entered for it; then
it does fail, and the table of reminders has one row more. -/
theorem answer_failed_iff {daemon : Daemon} {disk : Disk} (h : Reached daemon.store disk)
    {now : Instant} (hnow : now.HasPlainYear) (frame : Frame) :
    ((daemon.answer now frame disk).1.isSuccess = false →
        ((daemon.answer now frame disk).2 = disk ↔ ¬daemon.EntersUnreadable now frame disk)) ∧
      (daemon.EntersUnreadable now frame disk →
        (daemon.answer now frame disk).1.isSuccess = false ∧
          daemon.store.HasOneReminderMore disk (daemon.answer now frame disk).2) := by
  refine ⟨fun hfail => ?_, fun henters => ?_⟩
  · rcases answer_failed h.isCounted hnow hfail with ⟨henters, hmore⟩ | ⟨hnone, hsame⟩
    · exact ⟨fun hsame => absurd hsame hmore.ne, fun hnone => absurd henters hnone⟩
    · exact ⟨fun _ => hnone, fun _ => hsame⟩
  · have hfail := isSuccess_of_entersUnreadable h.isCounted henters
    refine ⟨hfail, ?_⟩
    rcases answer_failed h.isCounted hnow hfail with ⟨-, hmore⟩ | ⟨hnone, -⟩
    · exact hmore
    · exact absurd henters hnone

/-- A daemon that serves a new directory. -/
def newDaemon : Daemon := ⟨newConfig, newStore⟩

/-- A reminder for the year 20983. -/
def lateFrame : Frame :=
  .line (Utf8.encode
    "\x7b\"method\":\"create_reminder\",\"params\":\x7b\"title\":\"x\",\"minutes\":9999999999\x7d\x7d".toList)

theorem reached_newDisk : Reached newDaemon.store newDisk := by
  have hnew : Disk.empty.databases = [] := rfl
  exact .opened hnew isOpened_newDisk.opened

theorem isSuccess_lateFrame :
    (newDaemon.answer .epoch lateFrame newDisk).1.isSuccess = false := by
  decide +kernel

theorem answer_lateFrame_enters :
    newDaemon.EntersUnreadable .epoch lateFrame newDisk ∧
      newDaemon.store.HasOneReminderMore newDisk (newDaemon.answer .epoch lateFrame newDisk).2 := by
  obtain ⟨hsame, hmore⟩ :=
    answer_failed_iff reached_newDisk Instant.hasPlainYear_epoch lateFrame
  have hne : (newDaemon.answer .epoch lateFrame newDisk).2 ≠ newDisk := by decide +kernel
  have henters := Classical.not_not.mp fun h => hne ((hsame isSuccess_lateFrame).mpr h)
  exact ⟨henters, (hmore henters).2⟩

theorem answer_lateFrame_leaves_row :
    Reached newDaemon.store newDisk ∧ Instant.epoch.HasPlainYear ∧
      (newDaemon.answer .epoch lateFrame newDisk).1.isSuccess = false ∧
      (newDisk.reminderTable newDaemon.store.reminders).toOption = some ⟨[], 0⟩ ∧
      ((newDaemon.answer .epoch lateFrame newDisk).2.reminderTable
        newDaemon.store.reminders).toOption =
          some ⟨[⟨1, "x", "+20983-03-30T10:39:00.000000000Z", "active",
            "1970-01-01T00:00:00+00:00"⟩], 1⟩ :=
  ⟨reached_newDisk, Instant.hasPlainYear_epoch, isSuccess_lateFrame, by decide +kernel,
    by decide +kernel⟩

end Daemon

end Daybook
