import Daybook.Proofs.Column
import Daybook.Proofs.Database.Counting

namespace Daybook

def Reminder.row (r : Reminder) : ReminderRow :=
  ⟨r.id, r.title, String.ofList r.triggerTime.sortableText, r.status.name,
    String.ofList r.createdAt.storedText⟩

theorem ReminderStatus.parse_name (s : ReminderStatus) : parse s.name = .ok s := by
  rw [parse, ofName?_name]

namespace Reminder

theorem read_row_eq (r : Reminder) :
    r.row.read = (do
      let triggerTime ← r.triggerTime.readBack r.triggerTime.sortableText "trigger_time"
      let createdAt ← r.createdAt.readBack r.createdAt.storedText "created_at"
      return { r with triggerTime, createdAt }) := by
  simp only [ReminderRow.read, row, readTime_sortableText, readTime_storedText,
    ReminderStatus.parse_name, readValue]
  rfl

theorem read_row {r : Reminder} (htrigger : r.triggerTime.HasPlainYear)
    (hcreated : r.createdAt.HasPlainYear) : r.row.read = .ok r := by
  rw [read_row_eq, Instant.readBack_of_plain htrigger, Instant.readBack_of_plain hcreated]
  rfl

theorem le_second_of_triggerTime? {now trigger : Instant} {minutes : Int}
    (h : triggerTime? now minutes = .ok trigger) : now.second ≤ trigger.second := by
  unfold triggerTime? at h
  split at h
  · rename_i hrange
    split at h
    · rename_i t hadd
      cases h
      unfold Instant.addSeconds at hadd
      split at hadd
      · cases hadd
        exact Int.le_refl _
      · have hpositive : 0 < 60 * minutes := by omega
        split at hadd
        · rw [(Instant.parts_of_ofParts? hadd).1]
          omega
        · rw [(Instant.parts_of_ofParts? hadd).1]
          omega
    · cases h
  · cases h

theorem lt_year_of_read_row {r : Reminder} {minutes : Int} {e : Error}
    (hcreated : r.createdAt.HasPlainYear)
    (hdue : triggerTime? r.createdAt minutes = .ok r.triggerTime) (h : r.row.read = .error e) :
    9999 < r.triggerTime.year := by
  apply Int.not_le.mp
  intro hyear
  have hfirst := Instant.year_mono (le_second_of_triggerTime? hdue)
  have hplain : r.triggerTime.HasPlainYear := ⟨Int.le_trans hcreated.1 hfirst, hyear⟩
  rw [read_row hplain hcreated] at h
  cases h

theorem read_row_of_not_plain {r : Reminder} (h : ¬r.triggerTime.HasPlainYear) :
    r.row.read = .error (.database (.unreadable
      (.timestamp (String.ofList r.triggerTime.sortableText) "trigger_time"))) := by
  rw [read_row_eq, Instant.readBack, if_neg h]
  rfl

end Reminder

section

variable {τ : Type} (before : τ → τ → Prop) {x y z : τ} {i j k : Int}

theorem beforeThen_trans (htrans : ∀ {x y z}, before x y → before y z → before x z)
    (hxy : before x y ∨ x = y ∧ i ≤ j) (hyz : before y z ∨ y = z ∧ j ≤ k) :
    before x z ∨ x = z ∧ i ≤ k := by
  rcases hxy with hxy | ⟨rfl, hij⟩
  · rcases hyz with hyz | ⟨rfl, -⟩
    · exact .inl (htrans hxy hyz)
    · exact .inl hxy
  · rcases hyz with hyz | ⟨rfl, hjk⟩
    · exact .inl hyz
    · exact .inr ⟨rfl, Int.le_trans hij hjk⟩

theorem beforeThen_total (htotal : before x y ∨ x = y ∨ before y x) (i j : Int) :
    (before x y ∨ x = y ∧ i ≤ j) ∨ before y x ∨ y = x ∧ j ≤ i := by
  rcases htotal with h | rfl | h
  · exact .inl (.inl h)
  · exact (Int.le_total i j).imp (fun hle => .inr ⟨rfl, hle⟩) (fun hle => .inr ⟨rfl, hle⟩)
  · exact .inr (.inl h)

end

namespace ReminderRow

theorem comesBefore_iff {a b : ReminderRow} : a.comesBefore b = true ↔
    a.triggerTime < b.triggerTime ∨ a.triggerTime = b.triggerTime ∧ a.id ≤ b.id := by
  simp [comesBefore]

theorem comesBefore_trans {a b c : ReminderRow} (hab : a.comesBefore b = true)
    (hbc : b.comesBefore c = true) : a.comesBefore c = true := by
  rw [comesBefore_iff] at hab hbc ⊢
  exact beforeThen_trans (· < ·) String.lt_trans hab hbc

theorem comesBefore_total (a b : ReminderRow) : (a.comesBefore b || b.comesBefore a) = true := by
  rw [Bool.or_eq_true, comesBefore_iff, comesBefore_iff]
  exact beforeThen_total (· < ·) (Std.lt_trichotomy a.triggerTime b.triggerTime) a.id b.id

theorem pairwise_mergeSort (rows : List ReminderRow) :
    (rows.mergeSort comesBefore).Pairwise fun a b => a.comesBefore b = true := by
  refine List.pairwise_mergeSort ?_ comesBefore_total rows
  intro a b c
  exact comesBefore_trans

end ReminderRow

namespace ReminderTable

theorem create_eq {title : String} (h : isBlankText title = false) (table : ReminderTable)
    (trigger now : Instant) :
    table.create title trigger now = .ok (table.lastId + 1,
      ⟨table.rows ++ [Reminder.row ⟨table.lastId + 1, title, trigger, .active, now⟩],
        table.lastId + 1⟩) := by
  rw [create, h]
  rfl

theorem get_append_of_isCounted {table : ReminderTable} (h : table.IsCounted) {row : ReminderRow}
    (hrow : row.id = table.lastId + 1) (lastId : Int) :
    get ⟨table.rows ++ [row], lastId⟩ (table.lastId + 1) = row.read := by
  have hnone : table.rows.find? (·.id == table.lastId + 1) = none := by
    rw [List.find?_eq_none]
    intro old hold heq
    have := h old hold
    have : old.id = table.lastId + 1 := beq_iff_eq.mp heq
    omega
  have hfind : row? ⟨table.rows ++ [row], lastId⟩ (table.lastId + 1) = some row := by
    rw [row?, List.find?_append, hnone, Option.none_or, List.find?_singleton,
      if_pos (beq_iff_eq.mpr hrow)]
  rw [get, hfind]

end ReminderTable

end Daybook
