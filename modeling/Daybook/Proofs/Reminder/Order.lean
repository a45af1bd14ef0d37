import Daybook.Proofs.Calendar.Order
import Daybook.Proofs.Except
import Daybook.Proofs.Reminder.Row
import Daybook.Proofs.Text.Encoding

namespace Daybook

/-- How one instant stands to another: by their seconds, and by their nanoseconds within one second. -/
def Instant.order (a b : Instant) : Ordering :=
  (compare a.second b.second).then (compare a.nano b.nano)

namespace Instant

variable {a b : Instant}

theorem order_eq_lt_iff : a.order b = .lt ↔ a.before b := by
  rw [order, Ordering.then_eq_lt, Std.compare_eq_lt, Std.compare_eq_lt, before_iff,
    Std.LawfulEqOrd.compare_eq_iff_eq]

theorem order_self (a : Instant) : a.order a = .eq := by
  rw [order, Std.compare_self, Std.compare_self]
  rfl

theorem order_swap (a b : Instant) : (a.order b).swap = b.order a := by
  rw [order, order, Ordering.swap_then, ← Std.OrientedCmp.eq_swap, ← Std.OrientedCmp.eq_swap]

end Instant

namespace ReminderRow

/-- The bytes of the text by which a row is ordered. -/
def triggerBytes (row : ReminderRow) : List UInt8 := Utf8.encode row.triggerTime.toList

/-- The row keeps a trigger time as the table writes it. -/
def IsDueAt (row : ReminderRow) (trigger : Instant) : Prop :=
  row.triggerTime = String.ofList trigger.sortableText

variable {a b : Instant} {x y : ReminderRow}

theorem triggerBytes_lt (h : x.triggerTime < y.triggerTime) : x.triggerBytes < y.triggerBytes :=
  Utf8.encode_lt_encode h

theorem comesBefore_eq (x y : ReminderRow) : x.comesBefore y =
    ((compare x.triggerBytes y.triggerBytes).then (compare x.id y.id)).isLE := by
  rw [Bool.eq_iff_iff, comesBefore_iff]
  rcases Std.lt_trichotomy x.triggerTime y.triggerTime with hlt | heq | hgt
  · rw [Utf8.compare_eq_lt (triggerBytes_lt hlt)]
    simp [hlt]
  · have hbytes : x.triggerBytes = y.triggerBytes := by rw [triggerBytes, triggerBytes, heq]
    rw [hbytes, Std.compare_self, heq]
    simp [Std.isLE_compare]
  · have hnot : ¬x.triggerTime < y.triggerTime := String.lt_asymm hgt
    have hne : x.triggerTime ≠ y.triggerTime := fun heq => String.lt_irrefl _ (heq ▸ hgt)
    rw [@Std.OrientedCmp.eq_swap _ compare, Utf8.compare_eq_lt (triggerBytes_lt hgt)]
    simp [hnot, hne]

theorem compare_triggerBytes (ha : a.HasPlainYear) (hb : b.HasPlainYear) (hx : x.IsDueAt a)
    (hy : y.IsDueAt b) : compare x.triggerBytes y.triggerBytes = a.order b := by
  have hlt : ∀ {s t : Instant}, s.HasPlainYear → t.HasPlainYear → s.before t →
      compare (Utf8.encode s.sortableText) (Utf8.encode t.sortableText) = .lt :=
    fun hs ht h => Utf8.compare_eq_lt
      (Utf8.encode_lt_encode ((Instant.sortableText_lt_iff hs ht).mpr h))
  rw [triggerBytes, triggerBytes, hx, hy, String.toList_ofList, String.toList_ofList]
  rcases Instant.before_trichotomy a b with h | rfl | h
  · rw [hlt ha hb h, Instant.order_eq_lt_iff.mpr h]
  · rw [Instant.order_self, Std.compare_self]
  · rw [@Std.OrientedCmp.eq_swap _ compare, hlt hb ha h, ← Instant.order_swap,
      Instant.order_eq_lt_iff.mpr h]

theorem trigger_of_read {r : Reminder} (hread : x.read = .ok r) (ha : a.HasPlainYear)
    (hx : x.IsDueAt a) : r.triggerTime = a ∧ r.id = x.id := by
  obtain ⟨trigger, htrigger, hread⟩ := bind_eq_ok_iff.mp hread
  obtain ⟨status, -, hread⟩ := bind_eq_ok_iff.mp hread
  obtain ⟨created, -, hread⟩ := bind_eq_ok_iff.mp hread
  rw [hx, readTime_of_some (Instant.ofStoredText?_sortableText ha)] at htrigger
  cases htrigger
  cases hread
  exact ⟨rfl, rfl⟩

end ReminderRow

namespace ReminderTable

variable {table after : ReminderTable} {title : String} {trigger now : Instant} {id : Int}

theorem isDueAt_of_create (h : table.create title trigger now = .ok (id, after)) :
    ∃ row, after.rows = table.rows ++ [row] ∧ row.id = id ∧ row.IsDueAt trigger := by
  unfold create at h
  split at h
  · cases h
  · cases h
    exact ⟨_, rfl, rfl, rfl⟩

/-- What is listed is in the order of time, then of identifiers, when each active row keeps a time as it
is written, and the time has a plain year. -/
theorem pairwise_listActive {reminders : List Reminder}
    (hrows : ∀ row ∈ table.rows, row.status = ReminderStatus.active.name →
      ∃ trigger : Instant, trigger.HasPlainYear ∧ row.IsDueAt trigger)
    (hlist : table.listActive = .ok reminders) :
    reminders.Pairwise fun r s =>
      ((r.triggerTime.order s.triggerTime).then (compare r.id s.id)).isLE := by
  have hdue : ∀ row ∈ (table.rows.filter (·.status == ReminderStatus.active.name)).mergeSort
      ReminderRow.comesBefore, ∃ trigger : Instant, trigger.HasPlainYear ∧ row.IsDueAt trigger := by
    intro row hrow
    obtain ⟨hmem, hactive⟩ := List.mem_filter.mp (List.mem_mergeSort.mp hrow)
    exact hrows row hmem (beq_iff_eq.mp hactive)
  refine (pairwise_of_mapM hlist (ReminderRow.pairwise_mergeSort _)).imp ?_
  rintro r s ⟨x, hx, y, hy, hr, hs, hbefore⟩
  obtain ⟨a, ha, hxa⟩ := hdue x hx
  obtain ⟨b, hb, hyb⟩ := hdue y hy
  obtain ⟨htime, hid⟩ := ReminderRow.trigger_of_read hr ha hxa
  obtain ⟨htime', hid'⟩ := ReminderRow.trigger_of_read hs hb hyb
  rwa [ReminderRow.comesBefore_eq, ReminderRow.compare_triggerBytes ha hb hxa hyb, ← htime,
    ← htime', ← hid, ← hid'] at hbefore

/-- The order of the table is the order of time. What is entered for two times in plain years stands to
each other, byte by byte, as the times do, the same for the same time alone; rows come one before the
other accordingly, and so does what is listed. -/
theorem ordered_by_time :
    (∀ {table after : ReminderTable} {title : String} {trigger now : Instant} {id : Int},
      table.create title trigger now = .ok (id, after) →
      ∃ row, after.rows = table.rows ++ [row] ∧ row.id = id ∧ row.IsDueAt trigger) ∧
    (∀ {a b : Instant} {x y : ReminderRow}, a.HasPlainYear → b.HasPlainYear →
      x.IsDueAt a → y.IsDueAt b →
      compare x.triggerBytes y.triggerBytes = a.order b ∧
        (x.triggerTime = y.triggerTime ↔ a = b) ∧
        x.comesBefore y = ((a.order b).then (compare x.id y.id)).isLE) ∧
    ∀ {table : ReminderTable} {reminders : List Reminder},
      (∀ row ∈ table.rows, row.status = ReminderStatus.active.name →
        ∃ trigger : Instant, trigger.HasPlainYear ∧ row.IsDueAt trigger) →
      table.listActive = .ok reminders →
      reminders.Pairwise fun r s =>
        ((r.triggerTime.order s.triggerTime).then (compare r.id s.id)).isLE := by
  refine ⟨isDueAt_of_create, ?_, pairwise_listActive⟩
  intro a b x y ha hb hx hy
  have hbytes := ReminderRow.compare_triggerBytes ha hb hx hy
  refine ⟨hbytes, ?_, by rw [ReminderRow.comesBefore_eq, hbytes]⟩
  constructor
  · intro heq
    rw [hx, hy] at heq
    have hread := Instant.ofStoredText?_sortableText ha
    rw [String.ofList_injective heq, Instant.ofStoredText?_sortableText hb] at hread
    exact (Option.some.inj hread).symm
  · rintro rfl
    exact hx.trans hy.symm

def toast : ReminderRow :=
  ⟨1, "Toast", "2017-01-01T00:00:00.000000000Z", "active", "1970-01-01T00:00:00+00:00"⟩

def lastCall : ReminderRow :=
  ⟨2, "Last call", "2016-12-31T23:59:60.500000000Z", "active", "1970-01-01T00:00:00+00:00"⟩

theorem ordered_by_time_newYear :
    let reminders : List Reminder := [⟨2, "Last call", .leapSecond, .active, .epoch⟩,
      ⟨1, "Toast", .newYear, .active, .epoch⟩]
    ((create ⟨[toast], 1⟩ "Last call" .leapSecond .epoch = .ok (2, ⟨[toast, lastCall], 2⟩) ∧
        Instant.leapSecond.HasPlainYear ∧ Instant.newYear.HasPlainYear) ∧
      listActive ⟨[toast, lastCall], 2⟩ = .ok reminders) ∧
    (∃ row, [toast, lastCall] = [toast] ++ [row] ∧ row.id = 2 ∧ row.IsDueAt .leapSecond) ∧
    (compare lastCall.triggerBytes toast.triggerBytes = .lt ∧
      (lastCall.triggerTime = toast.triggerTime ↔ Instant.leapSecond = .newYear) ∧
      lastCall.comesBefore toast = true) ∧
    reminders.Pairwise fun r s =>
      ((r.triggerTime.order s.triggerTime).then (compare r.id s.id)).isLE := by
  intro reminders
  have hcreate : create ⟨[toast], 1⟩ "Last call" .leapSecond .epoch =
      .ok (2, ⟨[toast, lastCall], 2⟩) := by decide +kernel
  have hlist : listActive ⟨[toast, lastCall], 2⟩ = .ok reminders := by
    have hactive : [toast, lastCall].filter (·.status == ReminderStatus.active.name) =
        [toast, lastCall] := by decide
    have hsort : [toast, lastCall].mergeSort ReminderRow.comesBefore = [lastCall, toast] := by
      have hafter : toast.comesBefore lastCall = false := by decide +kernel
      simp [List.mergeSort, hafter]
    simp only [listActive, hactive, hsort]
    decide +kernel
  have hyear : Instant.leapSecond.HasPlainYear := by decide
  have hyear' : Instant.newYear.HasPlainYear := by decide
  have hdue : lastCall.IsDueAt .leapSecond := by
    show lastCall.triggerTime = _
    decide +kernel
  have hdue' : toast.IsDueAt .newYear := by
    show toast.triggerTime = _
    decide +kernel
  obtain ⟨hentered, horder, hlisted⟩ := ordered_by_time
  refine ⟨⟨⟨hcreate, hyear, hyear'⟩, hlist⟩, hentered hcreate,
    horder hyear hyear' hdue hdue', hlisted ?_ hlist⟩
  rintro row (_ | ⟨_, _ | ⟨_, ⟨⟩⟩⟩) _
  · exact ⟨.newYear, hyear', hdue'⟩
  · exact ⟨.leapSecond, hyear, hdue⟩

end ReminderTable

end Daybook
