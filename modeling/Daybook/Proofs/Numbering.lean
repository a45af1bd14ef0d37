namespace Daybook

/-- The numbers count up from 1. -/
def IsNumbered (ids : List Int) : Prop := ∀ i (h : i < ids.length), ids[i] = i + 1

namespace IsNumbered

theorem nil : IsNumbered [] := by
  intro i h
  exact absurd h (Nat.not_lt_zero i)

variable {α : Type} {records : List α} {f : α → Int}

theorem concat (h : IsNumbered (records.map f)) {a : α} (ha : f a = records.length + 1) :
    IsNumbered ((records ++ [a]).map f) := by
  intro i hi
  rw [List.length_map, List.length_append, List.length_singleton] at hi
  rw [List.getElem_map]
  rcases Nat.lt_or_eq_of_le (Nat.le_of_lt_succ hi) with hlt | rfl
  · have hid := h i (by rwa [List.length_map])
    rw [List.getElem_map] at hid
    rw [List.getElem_append_left hlt, hid]
  · rw [List.getElem_append_right (Nat.le_refl _)]
    simp [ha]

theorem map (h : IsNumbered (records.map f)) {g : α → α} (hg : ∀ a, f (g a) = f a) :
    IsNumbered ((records.map g).map f) := by
  rw [List.map_map, show f ∘ g = f from funext hg]
  exact h

theorem le_length (h : IsNumbered (records.map f)) {a : α} (ha : a ∈ records) :
    f a ≤ records.length := by
  obtain ⟨i, hi, rfl⟩ := List.getElem_of_mem ha
  have hid := h i (by rwa [List.length_map])
  rw [List.getElem_map] at hid
  omega

theorem eq_of_mem (h : IsNumbered (records.map f)) {a b : α} (ha : a ∈ records)
    (hb : b ∈ records) (hid : f a = f b) : a = b := by
  obtain ⟨i, hi, rfl⟩ := List.getElem_of_mem ha
  obtain ⟨j, hj, rfl⟩ := List.getElem_of_mem hb
  have hi' := h i (by rwa [List.length_map])
  have hj' := h j (by rwa [List.length_map])
  rw [List.getElem_map] at hi' hj'
  have : i = j := by omega
  subst this
  rfl

theorem find?_concat (h : IsNumbered (records.map f)) {a : α} {id : Int}
    (hid : id = records.length + 1) (ha : f a = id) :
    (records ++ [a]).find? (f · == id) = some a := by
  have hnone : records.find? (f · == id) = none := by
    rw [List.find?_eq_none]
    intro b hb hsame
    have hle := h.le_length hb
    have : f b = id := beq_iff_eq.mp hsame
    omega
  rw [List.find?_append, hnone, Option.none_or, List.find?_singleton, if_pos (beq_iff_eq.mpr ha)]

end IsNumbered

end Daybook
