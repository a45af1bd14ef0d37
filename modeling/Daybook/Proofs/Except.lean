namespace Daybook

instance decidableEqExcept {ε α : Type} [DecidableEq ε] [DecidableEq α] :
    DecidableEq (Except ε α)
  | .ok a, .ok b => decidable_of_iff (a = b) (by simp)
  | .error a, .error b => decidable_of_iff (a = b) (by simp)
  | .ok _, .error _ => isFalse nofun
  | .error _, .ok _ => isFalse nofun

variable {ε ρ α β : Type}

theorem bind_eq_ok_iff {value : Except ε α} {next : α → Except ε β} {b : β} :
    value >>= next = .ok b ↔ ∃ a, value = .ok a ∧ next a = .ok b := by
  cases value <;> simp [bind, Except.bind]

theorem map_eq_ok_iff {value : Except ε α} {f : α → β} {b : β} :
    value.map f = .ok b ↔ ∃ a, value = .ok a ∧ f a = b := by
  cases value <;> simp [Except.map]

variable {read : ρ → Except ε α} {rows : List ρ}

theorem mapM_eq_ok_iff {records : List α} :
    rows.mapM read = .ok records ↔ rows.map read = records.map .ok := by
  induction rows generalizing records with
  | nil => cases records <;> simp [pure, Except.pure]
  | cons row rows ih =>
      rw [List.mapM_cons, List.map_cons]
      cases hread : read row with
      | error e => cases records <;> simp [bind, Except.bind]
      | ok record =>
          cases hrows : rows.mapM read with
          | error e => cases records <;> simp [bind, Except.bind, ← ih, hrows]
          | ok others => cases records <;> simp [bind, Except.bind, pure, Except.pure, ← ih, hrows]

theorem mapM_eq_error_iff {e : ε} :
    rows.mapM read = .error e ↔ ∃ earlier row later, rows = earlier ++ row :: later ∧
      (∀ other ∈ earlier, ∃ record, read other = .ok record) ∧ read row = .error e := by
  induction rows with
  | nil => simp [pure, Except.pure]
  | cons first rows ih =>
      rw [List.mapM_cons]
      cases hread : read first with
      | error fault =>
          constructor
          · rintro ⟨⟩
            exact ⟨[], first, rows, rfl, nofun, hread⟩
          · rintro ⟨_ | ⟨other, earlier⟩, row, later, hrows, hearlier, hfault⟩
            · cases hrows
              exact hread.symm.trans hfault ▸ rfl
            · cases hrows
              obtain ⟨record, hrecord⟩ := hearlier first List.mem_cons_self
              cases hread.symm.trans hrecord
      | ok record =>
          have hrest : (do let others ← rows.mapM read; pure (record :: others)) = .error e ↔
              rows.mapM read = .error e := by
            cases rows.mapM read <;> simp [bind, Except.bind, pure, Except.pure]
          refine hrest.trans (ih.trans ⟨?_, ?_⟩)
          -- the first row is read, so the fault is that of a later one
          · rintro ⟨earlier, row, later, rfl, hearlier, hfault⟩
            refine ⟨first :: earlier, row, later, rfl, ?_, hfault⟩
            rintro other (_ | ⟨_, hother⟩)
            · exact ⟨record, hread⟩
            · exact hearlier other hother
          · rintro ⟨_ | ⟨other, earlier⟩, row, later, hrows, hearlier, hfault⟩
            · cases hrows
              cases hread.symm.trans hfault
            · cases hrows
              exact ⟨earlier, row, later, rfl,
                fun other hother => hearlier other (List.mem_cons_of_mem _ hother), hfault⟩

theorem mem_iff_of_mapM {records : List α} (h : rows.mapM read = .ok records) {record : α} :
    record ∈ records ↔ ∃ row ∈ rows, read row = .ok record := by
  rw [← List.mem_map, mapM_eq_ok_iff.mp h]
  simp

theorem pairwise_of_mapM {records : List α} (h : rows.mapM read = .ok records)
    {before : ρ → ρ → Prop} (hrows : rows.Pairwise before) :
    records.Pairwise fun x y => ∃ a ∈ rows, ∃ b ∈ rows,
      read a = .ok x ∧ read b = .ok y ∧ before a b := by
  have hread : (rows.map read).Pairwise fun u v => ∃ a ∈ rows, ∃ b ∈ rows,
      read a = u ∧ read b = v ∧ before a b :=
    List.pairwise_map.mpr (hrows.imp_of_mem fun {a b} ha hb hab => ⟨a, ha, b, hb, rfl, rfl, hab⟩)
  rw [mapM_eq_ok_iff.mp h] at hread
  exact List.pairwise_map.mp hread

end Daybook
