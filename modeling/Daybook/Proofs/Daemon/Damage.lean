import Daybook.Proofs.Daemon.Families
import Daybook.Proofs.Store.Damage

/-!
A daemon one of whose three files is damaged. A directory in the place of the notes fails the requests
about notes and no others, which go on as if it were not there. A database that is damaged keeps the
daemon from its whole store.
-/

namespace Daybook

open Disk Store

namespace Outcome

variable {α : Type} {disk : Disk}

theorem ofStore_map (yield : α → Payload) (result : Except Error α × Disk) (f : Disk → Disk) :
    ofStore yield (result.map id f) = (ofStore yield result).map id f := by
  obtain ⟨_ | _, _⟩ := result <;> rfl

theorem withParams_map (f : Disk → Disk) {params : Except ParamError α} {go go' : α → Outcome}
    (h : ∀ a, go' a = (go a).map id f) :
    withParams params (f disk) go' = (withParams params disk go).map id f := by
  cases params with
  | ok a => exact h a
  | error e => rfl

end Outcome

namespace Disk

variable {disk after : Disk} {path : String}

theorem append_of_isDirectory (h : disk.isDirectory path = true) (bytes : List UInt8) :
    disk.append path bytes = .error .isDirectory := by
  obtain ⟨target, hresolve, hfind⟩ := isDirectory_iff.mp h
  obtain ⟨happroach, hlong⟩ := resolve_eq_ok_iff.mp hresolve
  have hopen : disk.openFile path = .error .isDirectory := by
    simp only [openFile, happroach, bind, Except.bind, hlong, hfind]
    split <;> rfl
  simp only [append, hopen, bind, Except.bind]

theorem read_of_isDirectory (h : disk.isDirectory path = true) :
    disk.read path = .error .isDirectory := by
  obtain ⟨target, hresolve, hfind⟩ := isDirectory_iff.mp h
  simp only [read, lookup_of_directory hresolve hfind, bind, Except.bind, bytes?]

theorem prune_append {bytes : List UInt8} (h : disk.append path bytes = .ok after) :
    after.prune (Path.place path) = disk.prune (Path.place path) := by
  obtain ⟨place, hopen, h⟩ := bind_eq_ok_iff.mp h
  obtain rfl := eq_place_of_openFile hopen
  have hput : ∃ entry, after = disk.put (Path.place path) entry := by
    split at h <;> cases h <;> exact ⟨_, rfl⟩
  obtain ⟨entry, rfl⟩ := hput
  exact put_prune_below disk (List.prefix_refl _) entry

end Disk

namespace Daemon

variable {daemon : Daemon} {base disk disk' : Disk} {records : Records} {now : Instant}
  {frame : Frame} {q : Place}

/-- A request that is not about notes does the same with and without a place to which neither table
comes. -/
theorem perform_prune (h : Serves daemon.config daemon.store [] base disk records)
    (hclear : IsClearOf daemon.config q) {method : Method} (hmethod : method.family ≠ .notes)
    (params : Params) :
    daemon.perform now method params (disk.prune q) =
      (daemon.perform now method params disk).map id (prune · q) := by
  cases method with
  | takeNote => exact absurd rfl hmethod
  | searchNotes => exact absurd rfl hmethod
  | createTask =>
      refine Outcome.withParams_map (prune · q) fun task => ?_
      rw [createTask_prune h hclear, Outcome.ofStore_map]
  | listTasks =>
      dsimp only [perform, Outcome.ofQuery]
      rw [listPendingTasks_prune h hclear, ← Outcome.ofStore_map]
      rfl
  | completeTask =>
      refine Outcome.withParams_map (prune · q) fun id => ?_
      rw [completeTask_prune h hclear, Outcome.ofStore_map]
  | createReminder =>
      refine Outcome.withParams_map (prune · q) ?_
      rintro ⟨title, minutes⟩
      dsimp only
      rw [createReminder_prune h hclear, Outcome.ofStore_map]
  | listReminders =>
      dsimp only [perform, Outcome.ofQuery]
      rw [listActiveReminders_prune h hclear, ← Outcome.ofStore_map]
      rfl
  | cancelReminder =>
      refine Outcome.withParams_map (prune · q) fun id => ?_
      rw [cancelReminder_prune h hclear, Outcome.ofStore_map]

theorem answer_prune (now : Instant) (h : Serves daemon.config daemon.store [] base disk records)
    (hclear : IsClearOf daemon.config q) (hframe : daemon.requestFamily? frame ≠ some .notes) :
    daemon.answer now frame (disk.prune q) =
      (daemon.answer now frame disk).map id (prune · q) := by
  unfold requestFamily? at hframe
  unfold answer
  cases hrequest : daemon.request frame with
  | error e => rfl
  | ok request =>
      rw [hrequest] at hframe
      dsimp only [invoke]
      cases hmethod : Method.ofName? request.method with
      | none => rfl
      | some method =>
          have hnotes : method.family ≠ .notes := by
            intro heq
            simp [hmethod, heq] at hframe
          dsimp only
          rw [perform_prune h hclear hnotes]
          rfl

/-- A request about notes that comes to a directory fails. One that does not come to it is answered
alike on every disk. -/
theorem perform_of_isDirectory (now : Instant) (h : disk.isDirectory daemon.store.notes.path = true)
    {method : Method} (hmethod : method.family = .notes) (params : Params) :
    daemon.perform now method params disk = (.error (.ofError (.file .isDirectory)), disk) ∨
      ∃ result, ∀ disk', daemon.perform now method params disk' = (result, disk') := by
  cases method with
  | takeNote =>
      unfold perform
      dsimp only
      cases params.text "content" with
      | error e => exact Or.inr ⟨_, fun _ => rfl⟩
      | ok content =>
          left
          simp only [Outcome.withParams, appendNote, NoteLog.append, append_of_isDirectory h]
          rfl
  | searchNotes =>
      unfold perform
      dsimp only
      cases searchTerms daemon.config params with
      | error e => exact Or.inr ⟨_, fun _ => rfl⟩
      | ok terms =>
          obtain ⟨text, limit⟩ := terms
          by_cases hlimit : limit = 0
          · right
            refine ⟨.ok (.searchResults []), fun disk' => ?_⟩
            simp only [Outcome.withParams, Outcome.ofQuery, searchNotes, NoteLog.search, hlimit,
              if_true]
            rfl
          · left
            simp only [Outcome.withParams, Outcome.ofQuery, searchNotes, NoteLog.search, hlimit,
              if_false, NoteLog.read?, read_of_isDirectory h]
            rfl
  | _ => cases hmethod

theorem answer_of_isDirectory (now : Instant) (h : disk.isDirectory daemon.store.notes.path = true)
    (hframe : daemon.requestFamily? frame = some .notes) :
    daemon.answer now frame disk = (.failure (.ofError (.file .isDirectory)), disk) ∨
      ∃ response, ∀ disk', daemon.answer now frame disk' = (response, disk') := by
  unfold requestFamily? at hframe
  unfold answer
  cases hrequest : daemon.request frame with
  | error e => exact Or.inr ⟨_, fun _ => rfl⟩
  | ok request =>
      rw [hrequest] at hframe
      obtain ⟨method, hmethod, hnotes⟩ := Option.map_eq_some_iff.mp hframe
      dsimp only [invoke]
      rw [hmethod]
      dsimp only
      rcases perform_of_isDirectory now h hnotes request.params with
        hfails | ⟨result, hresult⟩
      · rw [hfails]
        exact Or.inl rfl
      · refine Or.inr ⟨.ofResult result, fun disk' => ?_⟩
        rw [hresult]

theorem prune_answer (hframe : daemon.requestFamily? frame = some .notes) (disk : Disk) :
    (daemon.answer now frame disk).2.prune (Path.place daemon.store.notes.path) =
      disk.prune (Path.place daemon.store.notes.path) := by
  unfold requestFamily? at hframe
  unfold answer
  cases hrequest : daemon.request frame with
  | error e => rfl
  | ok request =>
      rw [hrequest] at hframe
      obtain ⟨method, hmethod, hnotes⟩ := Option.map_eq_some_iff.mp hframe
      dsimp only [invoke]
      rw [hmethod]
      cases method with
      | takeNote =>
          dsimp only [perform]
          cases request.params.text "content" with
          | error e => rfl
          | ok content =>
              dsimp only [Outcome.withParams, appendNote, NoteLog.append]
              cases happend : disk.append daemon.store.notes.path
                (Utf8.encode (NoteEntry.format content.toList now)) with
              | error fault => rfl
              | ok after => exact prune_append happend
      | searchNotes =>
          dsimp only [perform]
          cases searchTerms daemon.config request.params with
          | error e => rfl
          | ok terms =>
              dsimp only [Outcome.withParams, Outcome.ofQuery]
              cases daemon.store.searchNotes terms.1 terms.2 disk <;> rfl
      | _ => cases hnotes

theorem serves_answer (h : Serves daemon.config daemon.store [] base disk records) (now : Instant)
    (frame : Frame) :
    ∃ after, Serves daemon.config daemon.store [] base (daemon.answer now frame disk).2 after ∧
      (daemon.requestFamily? frame ≠ some .notes → after.notes = records.notes) := by
  cases hframe : daemon.requestFamily? frame with
  | none =>
      obtain ⟨response, hanswer⟩ := exists_answer_eq hframe now
      rw [hanswer]
      exact ⟨records, h, fun _ => rfl⟩
  | some family =>
      have hacts : ActsOn daemon.config daemon.store [] base family fun disk =>
          daemon.answer now frame disk := actsOn_answer hframe
      obtain ⟨-, record, hafter, -⟩ := hacts h h rfl
      refine ⟨_, hafter, fun hne => ?_⟩
      have hnotes : Family.notes ≠ family := fun heq => hne (heq ▸ rfl)
      exact records.get_set_of_ne hnotes record

/-- The answers to requests that come one after the other, each at its time. -/
def answerAll (daemon : Daemon) (disk : Disk) (requests : List (Instant × Frame)) :
    List Response × Disk :=
  play (fun disk request => daemon.answer request.1 request.2 disk) disk requests

theorem getElem?_answerAll (daemon : Daemon) (disk : Disk) {requests : List (Instant × Frame)}
    {k : Nat} (h : requests[k]? = some (now, frame)) :
    (daemon.answerAll disk requests).1[k]? =
      some (daemon.answer now frame (daemon.answerAll disk (requests.take k)).2).1 :=
  getElem?_play (fun disk (request : Instant × Frame) => daemon.answer request.1 request.2 disk)
    disk h

/-- A disk that a daemon serves with a directory in the place of the notes, and one that differs from it
there alone. -/
structure Beside (daemon : Daemon) (base disk disk' : Disk) : Prop where
  serves : ∃ records, Serves daemon.config daemon.store [] base disk records ∧
    records.notes = some .directory
  serves' : ∃ base' records, Serves daemon.config daemon.store [] base' disk' records
  same : disk'.prune (Path.place daemon.store.notes.path) =
    disk.prune (Path.place daemon.store.notes.path)

namespace Beside

variable (h : daemon.Beside base disk disk')
include h

theorem isDirectory (hbase : base.isDirectory daemon.store.notes.path = true) :
    disk.isDirectory daemon.store.notes.path = true := by
  obtain ⟨records, hserves, hnotes⟩ := h.serves
  obtain ⟨target, hresolve, hfind⟩ := isDirectory_iff.mp hbase
  have hsame : ∀ there, disk.find? there = base.find? there := by
    intro there
    by_cases hthere : there = Path.place daemon.store.notes.path
    · rw [hthere, hserves.notes, hnotes, ← hfind, eq_place_of_resolve hresolve]
    · exact hserves.files there hthere List.not_mem_nil
  refine isDirectory_iff.mpr ⟨target, ?_, (hsame _).trans hfind⟩
  rw [(SameLayout.of_find hsame).resolve, hresolve]

variable (hclear : IsClearOf daemon.config (Path.place daemon.store.notes.path))
include hclear

theorem answer_prune_eq (hframe : daemon.requestFamily? frame ≠ some .notes) :
    (daemon.answer now frame disk).1 = (daemon.answer now frame disk').1 ∧
      (daemon.answer now frame disk').2.prune (Path.place daemon.store.notes.path) =
        (daemon.answer now frame disk).2.prune (Path.place daemon.store.notes.path) := by
  obtain ⟨records, hserves, -⟩ := h.serves
  obtain ⟨base', records', hserves'⟩ := h.serves'
  have hpruned := answer_prune now hserves hclear hframe
  have hpruned' := answer_prune now hserves' hclear hframe
  rw [h.same, hpruned] at hpruned'
  have hanswer := congrArg Prod.fst hpruned'
  have hdisk := congrArg Prod.snd hpruned'
  exact ⟨hanswer, hdisk.symm⟩

theorem step (hbase : base.isDirectory daemon.store.notes.path = true) (now : Instant)
    (frame : Frame) :
    daemon.Beside base (daemon.answer now frame disk).2 (daemon.answer now frame disk').2 := by
  obtain ⟨records, hserves, hnotes⟩ := h.serves
  obtain ⟨base', records', hserves'⟩ := h.serves'
  obtain ⟨last', hlast', -⟩ := serves_answer hserves' now frame
  by_cases hframe : daemon.requestFamily? frame = some .notes
  · have hstays : (daemon.answer now frame disk).2 = disk := by
      rcases answer_of_isDirectory now (h.isDirectory hbase) hframe with
        hfails | ⟨response, hanswer⟩
      · rw [hfails]
      · rw [hanswer]
    rw [hstays]
    exact ⟨h.serves, ⟨base', last', hlast'⟩, (prune_answer hframe disk').trans h.same⟩
  · obtain ⟨last, hlast, hkept⟩ := serves_answer hserves now frame
    exact ⟨⟨last, hlast, (hkept hframe).trans hnotes⟩, ⟨base', last', hlast'⟩,
      (h.answer_prune_eq hclear hframe).2⟩

theorem hasSame {family : Family} (hne : family ≠ .notes) :
    daemon.store.HasSame disk disk' family := by
  obtain ⟨records, hserves, -⟩ := h.serves
  obtain ⟨base', records', hserves'⟩ := h.serves'
  cases family with
  | notes => exact absurd rfl hne
  | tasks =>
      refine ⟨records.tasks, hserves.taskTable, ?_⟩
      rw [← taskTable_prune hserves' hclear, h.same, taskTable_prune hserves hclear,
        hserves.taskTable]
  | reminders =>
      refine ⟨records.reminders, hserves.reminderTable, ?_⟩
      rw [← reminderTable_prune hserves' hclear, h.same, reminderTable_prune hserves hclear,
        hserves.reminderTable]

variable (hbase : base.isDirectory daemon.store.notes.path = true)
include hbase

theorem run (requests : List (Instant × Frame)) :
    daemon.Beside base (daemon.answerAll disk requests).2 (daemon.answerAll disk' requests).2 :=
  play_keeps (fun request h => h.step hclear hbase request.1 request.2) h requests

variable {requests : List (Instant × Frame)} {k : Nat} (hk : requests[k]? = some (now, frame))
include hk

theorem getElem?_eq (hframe : daemon.requestFamily? frame ≠ some .notes) :
    (daemon.answerAll disk requests).1[k]? = (daemon.answerAll disk' requests).1[k]? := by
  have hrun := h.run hclear hbase (requests.take k)
  rw [getElem?_answerAll daemon disk hk, getElem?_answerAll daemon disk' hk,
    (hrun.answer_prune_eq hclear hframe).1]

theorem getElem?_of_notes (hframe : daemon.requestFamily? frame = some .notes) :
    (daemon.answerAll disk requests).1[k]? =
        some (Response.failure (.ofError (.file .isDirectory))) ∨
      ∃ response, (daemon.answerAll disk requests).1[k]? = some response ∧
        ∀ disk, (daemon.answer now frame disk).1 = response := by
  have hrun := h.run hclear hbase (requests.take k)
  rw [getElem?_answerAll daemon disk hk]
  rcases answer_of_isDirectory now (hrun.isDirectory hbase) hframe with
    hfails | ⟨response, hresponse⟩
  · rw [hfails]
    exact Or.inl rfl
  · rw [hresponse]
    exact Or.inr ⟨response, rfl, fun disk => congrArg Prod.fst (hresponse disk)⟩

end Beside

end Daemon

namespace Config

/-- What stands in the place of a family is of no use to it. -/
def IsDamaged (config : Config) (disk : Disk) : Family → Prop
  | .notes => disk.isDirectory config.notesPath = true
  | .tasks => disk.IsNoDatabase (Path.place config.tasksPath)
  | .reminders => disk.IsNoDatabase (Path.place config.remindersPath)

/-- The records of a family are kept as they should be, or there are none as yet. -/
def IsHealthy (config : Config) (disk : Disk) : Family → Prop
  | .notes => disk.HasNoPart (Path.place config.notesPath)
  | .tasks => disk.IsSound (Path.place config.tasksPath)
  | .reminders => disk.IsSound (Path.place config.remindersPath)

theorem not_isDamaged_of_none {config : Config} {disk : Disk} {family : Family}
    (h : disk.find? (config.place family) = none) : ¬config.IsDamaged disk family := by
  intro hdamaged
  have hnone : ¬disk.IsNoDatabase (config.place family) := by
    rintro (hdirectory | ⟨bytes, hfile, -⟩)
    · rw [h] at hdirectory
      cases hdirectory
    · rw [h] at hfile
      cases hfile
  cases family with
  | notes =>
      obtain ⟨target, hresolve, hfind⟩ := isDirectory_iff.mp hdamaged
      rw [eq_place_of_resolve hresolve] at hfind
      cases h.symm.trans hfind
  | tasks => exact hnone hdamaged
  | reminders => exact hnone hdamaged

theorem isHealthy_of_hasNoPart {config : Config} {disk : Disk} {family : Family}
    (h : ∀ place, disk.HasNoPart place) : config.IsHealthy disk family := by
  cases family with
  | notes => exact h _
  | tasks => exact Or.inl fun there _ => h there
  | reminders => exact Or.inl fun there _ => h there

/-- The files of the three families are apart from each other, and those of one family alone are
damaged. -/
structure IsDamagedAlone (config : Config) (disk : Disk) (family : Family) : Prop where
  taskPlain : Address.IsPlain config.tasksPath
  reminderPlain : Address.IsPlain config.remindersPath
  apart : ∀ there ∈ Disk.family (Path.place config.tasksPath),
    there ∉ Disk.family (Path.place config.remindersPath)
  clear : IsClearOf config (Path.place config.notesPath)
  working : disk.find? workingDirectory = some .directory
  damaged : config.IsDamaged disk family
  healthy : ∀ other, other ≠ family → ¬config.IsDamaged disk other ∧ config.IsHealthy disk other

/-- The store is opened as it would be if nothing stood in the place of a family. Whatever is requested
from then on, requests about other things than the family are answered as they would be then, and leave
the same records. Those about the family fail because of its file, unless they do not come to it. -/
def GoesOnWithout (config : Config) (disk : Disk) (family : Family) : Prop :=
  ∃ store after after',
    Store.openAt config disk = (.ok store, after) ∧
    Store.openAt config (disk.prune (config.place family)) = (.ok store, after') ∧
    ∀ requests : List (Instant × Frame),
      let daemon : Daemon := ⟨config, store⟩
      let run : List Response × Disk := daemon.answerAll after requests
      let run' : List Response × Disk := daemon.answerAll after' requests
      (∀ (k : Nat) now frame, requests[k]? = some (now, frame) →
        (daemon.requestFamily? frame ≠ some family → run.1[k]? = run'.1[k]?) ∧
        (daemon.requestFamily? frame = some family →
          (∃ message, run.1[k]? = some (Response.failure ⟨.ioFailure, message⟩)) ∨
            ∃ response, run.1[k]? = some response ∧
              ∀ disk, (daemon.answer now frame disk).1 = response)) ∧
      ∀ other, other ≠ family → store.HasSame run.2 run'.2 other

variable {config : Config} {disk : Disk} {family : Family} {store : Store} {after : Disk}

theorem IsDamagedAlone.openAt_ne_ok (h : config.IsDamagedAlone disk family) (hne : family ≠ .notes) :
    Store.openAt config disk ≠ (.ok store, after) := by
  cases family with
  | notes => exact absurd rfl hne
  | tasks => exact openAt_ne_ok_of_tasks h.taskPlain h.damaged
  | reminders =>
      exact openAt_ne_ok_of_reminders h.taskPlain h.reminderPlain
        (fun there hthere hother => h.apart there hother hthere) h.working
        (h.healthy .tasks nofun).2 h.damaged

namespace IsDamagedAlone

theorem hasPlainFiles (h : config.IsDamagedAlone disk family) : config.HasPlainFiles :=
  ⟨h.taskPlain, h.reminderPlain, .inr h.apart⟩

variable (h : config.IsDamagedAlone disk .notes)
include h

theorem tasks : disk.IsSound (Path.place config.tasksPath) := (h.healthy .tasks nofun).2

theorem reminders : disk.IsSound (Path.place config.remindersPath) := (h.healthy .reminders nofun).2

theorem find?_notes : disk.find? (Path.place config.notesPath) = some .directory := by
  obtain ⟨target, hresolve, hfind⟩ := isDirectory_iff.mp h.damaged
  rwa [eq_place_of_resolve hresolve] at hfind

theorem hasNoPart : disk.HasNoPart (Path.place config.notesPath) := by
  intro number part intact bytes hpart
  cases hpart.symm.trans h.find?_notes

theorem serves (hopen : Store.openAt config disk = (.ok store, after)) :
    ∃ records, Serves config store [] after after records :=
  IsEntered.serves ⟨h.working, h.hasNoPart, h.tasks, h.reminders, hopen⟩ h.hasPlainFiles
    h.clear.taskFamily h.clear.reminderFamily (List.forall_mem_nil _)

theorem serves_prune
    (hopen : Store.openAt config (disk.prune (config.place .notes)) = (.ok store, after)) :
    ∃ records, Serves config store [] after after records :=
  IsEntered.serves ⟨(find?_prune disk h.clear.working).trans h.working, h.hasNoPart.prune _,
      h.tasks.prune h.clear.taskApart, h.reminders.prune h.clear.reminderApart, hopen⟩
    h.hasPlainFiles h.clear.taskFamily h.clear.reminderFamily (List.forall_mem_nil _)

theorem beside (hopen : Store.openAt config disk = (.ok store, after))
    (hopen' : Store.openAt config (disk.prune (config.place .notes)) =
      (.ok store, after.prune (config.place .notes)))
    (hpath : store.notes.path = config.notesPath) :
    Daemon.Beside ⟨config, store⟩ after after (after.prune (config.place .notes)) := by
  obtain ⟨records, hserves⟩ := h.serves hopen
  obtain ⟨records', hserves'⟩ := h.serves_prune hopen'
  refine ⟨⟨records, hserves, ?_⟩, ⟨_, records', hserves'⟩, ?_⟩
  · rw [← hserves.notes, hpath]
    exact keepsDirectories_of_openAt h.hasPlainFiles h.working h.tasks h.reminders hopen _
      h.find?_notes
  · dsimp only
    rw [hpath]
    exact prune_prune after (config.place .notes)

theorem goesOnWithout_notes
    (hopen : Store.openAt config (disk.prune (config.place .notes)) = (.ok store, after)) :
    config.GoesOnWithout disk .notes := by
  obtain ⟨mid, hmid, rfl⟩ :=
    openAt_of_prune h.clear h.hasPlainFiles h.working h.tasks h.reminders hopen
  have hkeeps := keepsDirectories_of_openAt h.hasPlainFiles h.working h.tasks h.reminders hmid
  have hpath : store.notes.path = config.notesPath := by
    obtain ⟨-, -, -, -, -, -, hnotes⟩ := openAt_eq_ok hmid
    exact congrArg NoteLog.path hnotes
  have hclear : IsClearOf config (Path.place store.notes.path) := hpath ▸ h.clear
  have hbase : mid.isDirectory store.notes.path = true :=
    hpath ▸ isDirectory_of_keepsDirectories hkeeps h.damaged
  have hstart := h.beside hmid hopen hpath
  refine ⟨store, mid, _, hmid, hopen, fun requests => ⟨?_, ?_⟩⟩
  · intro k now frame hk
    refine ⟨hstart.getElem?_eq hclear hbase hk, fun hframe => ?_⟩
    exact (hstart.getElem?_of_notes hclear hbase hk hframe).imp_left fun hfails => ⟨_, hfails⟩
  · intro other hne
    exact (hstart.run hclear hbase requests).hasSame hclear hne

end IsDamagedAlone

/-- Only damaged notes leave the others as they were. A damaged database keeps the store from being
opened at all. -/
theorem goesOnWithout_iff (h : config.IsDamagedAlone disk family)
    (hopen : Store.openAt config (disk.prune (config.place family)) = (.ok store, after)) :
    (config.GoesOnWithout disk family ↔ family = .notes) ∧
      (family ≠ .notes →
        ∃ e left, Store.openAt config disk = (.error e, left) ∧ e.kind = .ioFailure) := by
  refine ⟨⟨?_, ?_⟩, ?_⟩
  · rintro ⟨other, left, left', hother, -⟩
    exact Classical.byContradiction fun hne => h.openAt_ne_ok hne hother
  · rintro rfl
    exact h.goesOnWithout_notes hopen
  · intro hne
    rcases hfails : Store.openAt config disk with ⟨e | other, left⟩
    · exact ⟨e, left, rfl, kind_of_openAt hfails⟩
    · exact absurd hfails (h.openAt_ne_ok hne)

end Config

/-- A disk on which a directory stands in the place of one of the files of a new state directory. -/
def blockedDisk (family : Family) : Disk := (Disk.empty.makeDirectories (newConfig.path family)).2

theorem isDamagedAlone_blockedDisk (family : Family) :
    newConfig.IsDamagedAlone (blockedDisk family) family where
  taskPlain := rfl
  reminderPlain := rfl
  apart := by decide +kernel
  clear := {
    working := by decide +kernel
    state := by decide +kernel
    tasks := by decide +kernel
    reminders := by decide +kernel
    taskFamily := by decide +kernel
    reminderFamily := by decide +kernel }
  working := by cases family <;> decide +kernel
  damaged := by
    cases family with
    | notes => exact isDirectory_iff.mpr ⟨⟨["work", "state", "notes.md"], false⟩, rfl, rfl⟩
    | tasks => exact Or.inl (by decide +kernel)
    | reminders => exact Or.inl (by decide +kernel)
  healthy := by
    intro other hne
    have hparts : ∀ place, (blockedDisk family).HasNoPart place := fun place =>
      (isFresh_empty.parts place).gain (gainsDirectories_makeDirectories .empty _)
    refine ⟨Config.not_isDamaged_of_none ?_, Config.isHealthy_of_hasNoPart hparts⟩
    cases family <;> cases other <;> first | exact absurd rfl hne | decide +kernel

theorem openAt_blockedDisk_prune (family : Family) :
    Store.openAt newConfig ((blockedDisk family).prune (newConfig.place family)) =
      (.ok newStore, (Store.openAt newConfig
        ((blockedDisk family).prune (newConfig.place family))).2) := by
  cases family <;> decide +kernel

theorem goesOnWithout_iff_blockedDisk :
    (newConfig.IsDamagedAlone (blockedDisk .notes) .notes ∧
      newConfig.GoesOnWithout (blockedDisk .notes) .notes) ∧
    newConfig.IsDamagedAlone (blockedDisk .tasks) .tasks ∧
      ¬newConfig.GoesOnWithout (blockedDisk .tasks) .tasks := by
  have hnotes := Config.goesOnWithout_iff (isDamagedAlone_blockedDisk .notes)
    (openAt_blockedDisk_prune .notes)
  have htasks := Config.goesOnWithout_iff (isDamagedAlone_blockedDisk .tasks)
    (openAt_blockedDisk_prune .tasks)
  exact ⟨⟨isDamagedAlone_blockedDisk .notes, hnotes.1.mpr rfl⟩,
    isDamagedAlone_blockedDisk .tasks, fun hgoes => nomatch htasks.1.mp hgoes⟩

/-- A note is taken and the reminders are listed. -/
def otherRequests : List (Instant × Frame) :=
  [(.epoch, .line (Utf8.encode
      "\x7b\"method\":\"take_note\",\"params\":\x7b\"content\":\"milk\"\x7d\x7d".toList)),
    (.epoch, .line (Utf8.encode "\x7b\"method\":\"list_reminders\"\x7d".toList))]

/-- Neither a note nor a reminder can be had while a directory stands in the place of the tasks. Both can
when it is taken away. -/
theorem openAt_blockedDisk_tasks :
    newConfig.IsDamagedAlone (blockedDisk .tasks) .tasks ∧
      (otherRequests.map fun request =>
        (Daemon.mk newConfig newStore).requestFamily? request.2) = [some .notes, some .reminders] ∧
      (∃ after,
        Store.openAt newConfig ((blockedDisk .tasks).prune (newConfig.place .tasks)) =
          (.ok newStore, after) ∧
        ((Daemon.mk newConfig newStore).answerAll after otherRequests).1.map Response.isSuccess =
          [true, true]) ∧
      Store.openAt newConfig (blockedDisk .tasks) =
        (.error (.database (.cannotOpen (some "state/tasks.db"))), blockedDisk .tasks) ∧
      ¬newConfig.GoesOnWithout (blockedDisk .tasks) .tasks := by
  have hfails : Store.openAt newConfig (blockedDisk .tasks) =
      (.error (.database (.cannotOpen (some "state/tasks.db"))), blockedDisk .tasks) := by
    decide +kernel
  refine ⟨isDamagedAlone_blockedDisk .tasks, by decide +kernel,
    ⟨_, openAt_blockedDisk_prune .tasks, by decide +kernel⟩, hfails, ?_⟩
  rintro ⟨store, after, after', hopen, -⟩
  rw [hfails] at hopen
  cases hopen

end Daybook
