import Daybook.Proofs.Calendar.Order
import Daybook.Proofs.Numbering
import Daybook.Proofs.Reminder.Row

namespace Daybook

/-- What is done with the reminders of a store. -/
inductive ReminderDeed where
  | create (title : String) (minutes : Int) (now : Instant)
  | get (id : Int)
  | cancel (id : Int)
  | listActive

inductive ReminderAnswer where
  | created (reminder : Reminder)
  | found (reminder : Reminder)
  | cancelled
  | listed (reminders : List Reminder)
deriving DecidableEq

namespace Reminder

/-- The time so many minutes from now, if there is one. -/
def due? (now : Instant) (minutes : Int) : Option Instant :=
  if 0 ≤ minutes then now.addSeconds (60 * minutes) else none

/-- The order in which reminders are due; those due at one time are in the order of their making. -/
def comesBefore (a b : Reminder) : Bool :=
  a.triggerTime.before b.triggerTime || (a.triggerTime = b.triggerTime && a.id ≤ b.id)

structure HasPlainYears (r : Reminder) : Prop where
  trigger : r.triggerTime.HasPlainYear
  created : r.createdAt.HasPlainYear

end Reminder

namespace ReminderLedger

/-- What a deed does to a ledger. Identifiers count the reminders that were made. -/
def perform (reminders : List Reminder) : ReminderDeed → Except Error ReminderAnswer × List Reminder
  | .create title minutes now =>
      match Reminder.due? now minutes with
      | none => (.error (.invalidOffset minutes), reminders)
      | some trigger =>
          if isBlankText title then (.error .emptyTitle, reminders)
          else
            let r : Reminder := ⟨reminders.length + 1, title, trigger, .active, now⟩
            (.ok (.created r), reminders ++ [r])
  | .get id =>
      match reminders.find? (·.id == id) with
      | some r => (.ok (.found r), reminders)
      | none => (.error (.reminderNotFound id), reminders)
  | .cancel id =>
      match reminders.find? (·.id == id) with
      | none => (.error (.reminderNotFound id), reminders)
      | some r =>
          if r.status = .fired then
            (.error (.invalidTransition ReminderStatus.fired.name ReminderStatus.cancelled.name),
              reminders)
          else
            (.ok .cancelled,
              reminders.map fun r => if r.id = id then { r with status := .cancelled } else r)
  | .listActive =>
      (.ok (.listed ((reminders.filter (·.status = .active)).mergeSort Reminder.comesBefore)),
        reminders)

def fire (reminders : List Reminder) (id : Int) : List Reminder :=
  reminders.map fun r => if r.id = id then { r with status := .fired } else r

end ReminderLedger

def ReminderTable.perform (table : ReminderTable) :
    ReminderDeed → Except Error ReminderAnswer × ReminderTable
  | .create title minutes now =>
      match Reminder.triggerTime? now minutes with
      | .error e => (.error e, table)
      | .ok trigger =>
          match table.create title trigger now with
          | .error e => (.error e, table)
          | .ok (id, after) => ((after.get id).map .created, after)
  | .get id => ((table.get id).map .found, table)
  | .cancel id =>
      match table.cancel id with
      | .ok after => (.ok .cancelled, after)
      | .error e => (.error e, table)
  | .listActive => (table.listActive.map .listed, table)

/-- What another program does to a table of reminders when it fires one. -/
def ReminderTable.fire (table : ReminderTable) (id : Int) :
    Except DatabaseFault (Nat × ReminderTable) :=
  table.setColumn id .status (some ReminderStatus.fired.name)

/-- The clock and the time at which a new reminder is due show years of four digits. -/
def ReminderDeed.IsPlain : ReminderDeed → Prop
  | create _ minutes now =>
      now.HasPlainYear ∧ ∀ trigger, Reminder.due? now minutes = some trigger → trigger.HasPlainYear
  | get _ | cancel _ | listActive => True

namespace Reminder

theorem addSeconds_eq_none {now : Instant} {seconds : Int} (h : 60 * maxMinutes < seconds) :
    now.addSeconds seconds = none := by
  have hnow := now.firstSecond_le
  have hfar : ∀ nano, Instant.ofParts? (now.second + seconds) nano = none := by
    intro nano
    rw [Instant.ofParts?, dif_neg]
    rintro ⟨-, hlast, -⟩
    unfold maxMinutes at h
    unfold firstSecond at hnow
    unfold lastSecond at hlast
    omega
  have hpositive : 0 < seconds := by
    unfold maxMinutes at h
    omega
  rw [Instant.addSeconds, if_neg (by omega), hfar, if_pos hpositive, hfar, ite_self]

theorem triggerTime?_eq (now : Instant) (minutes : Int) :
    triggerTime? now minutes = match due? now minutes with
      | some trigger => .ok trigger
      | none => .error (.invalidOffset minutes) := by
  unfold triggerTime? due?
  by_cases hnegative : 0 ≤ minutes
  · by_cases hmost : minutes ≤ maxMinutes
    · have hrange : 0 ≤ minutes ∧ minutes ≤ maxMinutes := ⟨hnegative, hmost⟩
      cases hadd : now.addSeconds (60 * minutes) with
      | none => rw [if_pos hrange, if_pos hnegative]
      | some t => rw [if_pos hrange, if_pos hnegative]
    · rw [if_pos hnegative, if_neg fun h => hmost h.2, addSeconds_eq_none (by omega)]
  · rw [if_neg hnegative, if_neg fun h => hnegative h.1]

theorem comesBefore_row {a b : Reminder} (ha : a.HasPlainYears) (hb : b.HasPlainYears) :
    a.comesBefore b = a.row.comesBefore b.row := by
  have hlt : decide (a.row.triggerTime < b.row.triggerTime) =
      a.triggerTime.before b.triggerTime := by
    rw [Bool.eq_iff_iff, decide_eq_true_iff, ← Instant.sortableText_lt_iff ha.trigger hb.trigger]
    show (String.ofList _).toList < (String.ofList _).toList ↔ _
    rw [String.toList_ofList, String.toList_ofList]
  have heq : (a.row.triggerTime == b.row.triggerTime) =
      decide (a.triggerTime = b.triggerTime) := by
    rw [Bool.eq_iff_iff, beq_iff_eq, decide_eq_true_iff]
    constructor
    · intro h
      have htext : a.triggerTime.sortableText = b.triggerTime.sortableText :=
        String.ofList_injective h
      have hsame := Instant.ofStoredText?_sortableText ha.trigger
      rw [htext, Instant.ofStoredText?_sortableText hb.trigger] at hsame
      exact (Option.some.inj hsame).symm
    · intro h
      rw [row, row, h]
  rw [ReminderRow.comesBefore, hlt, heq]
  rfl

end Reminder

namespace ReminderLedger

structure IsKept (reminders : List Reminder) : Prop where
  years : ∀ r ∈ reminders, r.HasPlainYears
  numbered : IsNumbered (reminders.map (·.id))

end ReminderLedger

namespace ReminderTable

/-- The table that keeps the reminders of a ledger. -/
def ofReminders (reminders : List Reminder) : ReminderTable :=
  ⟨reminders.map Reminder.row, reminders.length⟩

variable {reminders : List Reminder}

theorem row?_ofReminders (reminders : List Reminder) (id : Int) :
    (ofReminders reminders).row? id = (reminders.find? (·.id == id)).map Reminder.row := by
  rw [row?, ofReminders, List.find?_map]
  rfl

theorem filter_active (reminders : List Reminder) :
    (reminders.map Reminder.row).filter (·.status == ReminderStatus.active.name) =
      (reminders.filter (·.status = .active)).map Reminder.row := by
  rw [List.filter_map]
  congr 1
  apply List.filter_congr
  intro r _
  cases hstatus : r.status <;> simp [Reminder.row, hstatus, ReminderStatus.name]

theorem listActive_ofReminders (h : ∀ r ∈ reminders, r.HasPlainYears) :
    (ofReminders reminders).listActive =
      .ok ((reminders.filter (·.status = .active)).mergeSort Reminder.comesBefore) := by
  have hactive : ∀ r ∈ reminders.filter (·.status = .active), r.HasPlainYears := by
    intro r hr
    exact h r (List.mem_filter.mp hr).1
  rw [listActive, ofReminders, filter_active,
    ← List.map_mergeSort fun a ha b hb => a.comesBefore_row (hactive a ha) (hactive b hb),
    mapM_map_eq_pure]
  · rfl
  · intro r hr
    have hyears := hactive r (List.mem_mergeSort.mp hr)
    exact Reminder.read_row hyears.trigger hyears.created

theorem modify_ofReminders (reminders : List Reminder) (id : Int) {f : ReminderRow → ReminderRow}
    {g : Reminder → Reminder} (h : ∀ r ∈ reminders, r.id = id → (g r).row = f r.row) :
    (ofReminders reminders).modify id f =
      ofReminders (reminders.map fun r => if r.id = id then g r else r) := by
  rw [modify, ofReminders, ofReminders, List.length_map, List.map_map, List.map_map]
  congr 1
  apply List.map_congr_left
  intro r hr
  dsimp only [Function.comp]
  by_cases hid : r.id = id
  · rw [if_pos hid, if_pos (show r.row.id = id from hid), h r hr hid]
  · rw [if_neg hid, if_neg (show ¬r.row.id = id from hid)]

theorem get_ofReminders (h : ∀ r ∈ reminders, r.HasPlainYears) (id : Int) :
    (ofReminders reminders).get id = match reminders.find? (·.id == id) with
      | some r => .ok r
      | none => .error (.reminderNotFound id) := by
  rw [get, row?_ofReminders]
  cases hfind : reminders.find? (·.id == id) with
  | none => rfl
  | some r =>
      have hr := h r (List.mem_of_find?_eq_some hfind)
      exact Reminder.read_row hr.trigger hr.created

theorem cancel_ofReminders (h : ∀ r ∈ reminders, r.HasPlainYears) (id : Int) :
    (ofReminders reminders).cancel id = match reminders.find? (·.id == id) with
      | none => .error (.reminderNotFound id)
      | some r =>
          if r.status = .fired then
            .error (.invalidTransition ReminderStatus.fired.name ReminderStatus.cancelled.name)
          else .ok <| ofReminders <|
            reminders.map fun r => if r.id = id then { r with status := .cancelled } else r := by
  rw [cancel, row?_ofReminders]
  cases hfind : reminders.find? (·.id == id) with
  | none => rfl
  | some r =>
      have hr := h r (List.mem_of_find?_eq_some hfind)
      have hfired : (r.row.status == ReminderStatus.fired.name) = decide (r.status = .fired) := by
        cases hstatus : r.status <;> simp [Reminder.row, hstatus, ReminderStatus.name]
      dsimp only [Option.map_some]
      rw [hfired]
      by_cases hstatus : r.status = .fired
      · rw [if_pos (decide_eq_true hstatus), if_pos hstatus,
          Reminder.read_row hr.trigger hr.created]
        dsimp only [bind, Except.bind]
        rw [hstatus]
      · rw [if_neg (by simpa using hstatus), if_neg hstatus,
          modify_ofReminders reminders id (g := fun r => { r with status := .cancelled })]
        intro r _ _
        rfl

theorem create_ofReminders {title : String} (htitle : isBlankText title = false)
    (reminders : List Reminder) (trigger now : Instant) :
    (ofReminders reminders).create title trigger now =
      .ok ((reminders.length : Int) + 1, ofReminders
        (reminders ++ [⟨(reminders.length : Int) + 1, title, trigger, .active, now⟩])) := by
  rw [create_eq htitle]
  simp [ofReminders]

/-- A deed does to the table what it does to the ledger that the table keeps. -/
theorem perform_ofReminders (h : ReminderLedger.IsKept reminders) {deed : ReminderDeed}
    (hdeed : deed.IsPlain) :
    (ofReminders reminders).perform deed =
      ((ReminderLedger.perform reminders deed).1,
        ofReminders (ReminderLedger.perform reminders deed).2) := by
  cases deed with
  | create title minutes now =>
      dsimp only [perform, ReminderLedger.perform]
      rw [Reminder.triggerTime?_eq]
      cases hdue : Reminder.due? now minutes with
      | none => rfl
      | some trigger =>
          dsimp only
          by_cases htitle : isBlankText title = true
          · rw [create, if_pos htitle, if_pos htitle]
          · rw [create_ofReminders (Bool.eq_false_iff.mpr htitle), if_neg htitle]
            dsimp only
            rw [get_ofReminders, h.numbered.find?_concat rfl rfl]
            · rfl
            · intro r hr
              rcases List.mem_append.mp hr with hold | hnew
              · exact h.years r hold
              · obtain rfl := List.mem_singleton.mp hnew
                exact ⟨hdeed.2 trigger hdue, hdeed.1⟩
  | get id =>
      dsimp only [perform, ReminderLedger.perform]
      rw [get_ofReminders h.years]
      cases reminders.find? (·.id == id) <;> rfl
  | cancel id =>
      dsimp only [perform, ReminderLedger.perform]
      rw [cancel_ofReminders h.years]
      cases reminders.find? (·.id == id) with
      | none => rfl
      | some r =>
          dsimp only
          by_cases hstatus : r.status = .fired
          · rw [if_pos hstatus, if_pos hstatus]
          · rw [if_neg hstatus, if_neg hstatus]
  | listActive =>
      dsimp only [perform, ReminderLedger.perform]
      rw [listActive_ofReminders h.years]
      rfl

theorem fire_ofReminders (h : ReminderLedger.IsKept reminders) (id : Int) :
    ∃ n, (ofReminders reminders).fire id =
      .ok (n, ofReminders (ReminderLedger.fire reminders id)) := by
  rw [fire, setColumn, row?_ofReminders]
  cases hfind : reminders.find? (·.id == id) with
  | none =>
      have hsame : ReminderLedger.fire reminders id = reminders := by
        refine (List.map_congr_left ?_).trans (List.map_id reminders)
        intro r hr
        have hid := List.find?_eq_none.mp hfind r hr
        exact if_neg fun h => hid (beq_iff_eq.mpr h)
      rw [hsame]
      exact ⟨0, rfl⟩
  | some r =>
      have hr : r.id = id := by simpa using List.find?_some hfind
      refine ⟨1, ?_⟩
      dsimp only [Option.map_some, ReminderRow.setColumn, Except.map]
      rw [modify_ofReminders reminders id (g := fun r => { r with status := .fired })]
      · rfl
      · intro other hother hid
        rw [h.numbered.eq_of_mem hother (List.mem_of_find?_eq_some hfind) (hid.trans hr.symm)]
        rfl

theorem eq_of_fire_none {table after : ReminderTable} {id : Int}
    (h : table.fire id = .ok (0, after)) : after = table := by
  unfold fire setColumn at h
  split at h
  · cases h
    rfl
  · cases h

end ReminderTable

namespace ReminderLedger

variable {reminders : List Reminder}

theorem isKept_nil : IsKept [] where
  years := by
    intro r hr
    cases hr
  numbered := IsNumbered.nil

theorem IsKept.setStatus (h : IsKept reminders) (id : Int) (status : ReminderStatus) :
    IsKept (reminders.map fun r => if r.id = id then { r with status := status } else r) where
  years := by
    intro r hr
    obtain ⟨old, hold, rfl⟩ := List.mem_map.mp hr
    have hyears := h.years old hold
    split
    · exact ⟨hyears.trigger, hyears.created⟩
    · exact hyears
  numbered := by
    apply h.numbered.map
    intro r
    split <;> rfl

theorem IsKept.perform (h : IsKept reminders) {deed : ReminderDeed} (hdeed : deed.IsPlain) :
    IsKept (ReminderLedger.perform reminders deed).2 := by
  cases deed with
  | create title minutes now =>
      dsimp only [ReminderLedger.perform]
      split
      · exact h
      · rename_i trigger hdue
        split
        · exact h
        · constructor
          · intro r hr
            rcases List.mem_append.mp hr with hold | hnew
            · exact h.years r hold
            · obtain rfl := List.mem_singleton.mp hnew
              exact ⟨hdeed.2 trigger hdue, hdeed.1⟩
          · exact h.numbered.concat rfl
  | get id =>
      dsimp only [ReminderLedger.perform]
      split <;> exact h
  | cancel id =>
      dsimp only [ReminderLedger.perform]
      split
      · exact h
      · split
        · exact h
        · exact h.setStatus id .cancelled
  | listActive => exact h

theorem exists_setStatus (id : Int) (status : ReminderStatus) {r : Reminder} (hr : r ∈ reminders) :
    ∃ last, { r with status := last } ∈
      reminders.map fun r => if r.id = id then { r with status := status } else r := by
  by_cases hid : r.id = id
  · exact ⟨status, List.mem_map.mpr ⟨r, hr, if_pos hid⟩⟩
  · exact ⟨r.status, List.mem_map.mpr ⟨r, hr, if_neg hid⟩⟩

/-- Nothing but the status of a reminder ever changes. -/
theorem exists_status_perform (deed : ReminderDeed) {r : Reminder} (hr : r ∈ reminders) :
    ∃ status, { r with status := status } ∈ (perform reminders deed).2 := by
  have hsame : ∃ status, { r with status := status } ∈ reminders := ⟨r.status, hr⟩
  cases deed with
  | create title minutes now =>
      dsimp only [perform]
      split
      · exact hsame
      · split
        · exact hsame
        · exact ⟨r.status, List.mem_append_left _ hr⟩
  | get id =>
      dsimp only [perform]
      split <;> exact hsame
  | cancel id =>
      dsimp only [perform]
      split
      · exact hsame
      · split
        · exact hsame
        · exact exists_setStatus id .cancelled hr
  | listActive => exact hsame

end ReminderLedger

end Daybook
