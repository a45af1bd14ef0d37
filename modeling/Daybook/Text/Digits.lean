namespace Daybook.Digits

/-- The digit for `n` modulo ten. -/
def digit (n : Nat) : Char := Char.ofNat (48 + n % 10)

def digitValue (c : Char) : Nat := c.toNat - 48

/-- The lowest `width` digits of a number. -/
def fixed : (width n : Nat) → List Char
  | 0, _ => []
  | width + 1, n => fixed width (n / 10) ++ [digit n]

/-- A number without leading zeros. -/
def decimal (n : Nat) : List Char :=
  if n < 10 then [digit n] else decimal (n / 10) ++ [digit n]

/-- An integer without leading zeros, with a minus sign when it is negative. -/
def integer (v : Int) : List Char :=
  if v < 0 then '-' :: decimal v.natAbs else decimal v.natAbs

/-- The value of a run of digits, the first being the most significant. -/
def value (ds : List Char) : Nat := ds.foldl (fun n c => n * 10 + digitValue c) 0

theorem isDigit_digit (n : Nat) : (digit n).isDigit := by
  have h : n % 10 < 10 := Nat.mod_lt _ (by decide)
  unfold digit
  generalize n % 10 = k at h
  have : ∀ k < 10, (Char.ofNat (48 + k)).isDigit := by decide
  exact this k h

theorem isDigit_of_mem_fixed {width n : Nat} {c : Char} (h : c ∈ fixed width n) : c.isDigit := by
  induction width generalizing n with
  | zero => simp [fixed] at h
  | succ width ih =>
      rw [fixed, List.mem_append, List.mem_singleton] at h
      rcases h with hc | rfl
      · exact ih hc
      · exact isDigit_digit n

theorem isDigit_of_mem_decimal {n : Nat} {c : Char} (h : c ∈ decimal n) : c.isDigit := by
  induction n using Nat.strongRecOn with
  | ind n ih =>
      rw [decimal] at h
      split at h
      · rw [List.mem_singleton] at h
        exact h ▸ isDigit_digit n
      · rw [List.mem_append, List.mem_singleton] at h
        rcases h with hc | rfl
        · exact ih (n / 10) (by omega) hc
        · exact isDigit_digit n

theorem decimal_ne_nil (n : Nat) : decimal n ≠ [] := by
  rw [decimal]
  split <;> simp

theorem fixed_length (width n : Nat) : (fixed width n).length = width := by
  induction width generalizing n with
  | zero => rfl
  | succ width ih => simp [fixed, ih]

theorem digitValue_digit (n : Nat) : digitValue (digit n) = n % 10 := by
  have h : n % 10 < 10 := Nat.mod_lt _ (by decide)
  unfold digit digitValue
  generalize n % 10 = k at h
  have : ∀ k < 10, (Char.ofNat (48 + k)).toNat - 48 = k := by decide
  exact this k h

theorem value_append_singleton (ds : List Char) (c : Char) :
    value (ds ++ [c]) = value ds * 10 + digitValue c := by
  simp [value]

theorem value_decimal (n : Nat) : value (decimal n) = n := by
  induction n using Nat.strongRecOn with
  | ind n ih =>
      rw [decimal]
      split
      · rename_i h
        rw [← List.nil_append [digit n], value_append_singleton, digitValue_digit]
        simp [value]
        omega
      · rename_i h
        rw [value_append_singleton, ih (n / 10) (by omega), digitValue_digit]
        omega

theorem isDigit_of_fixed_eq_cons {width n : Nat} (hpos : 0 < width) {rest text : List Char}
    {c : Char} (h : fixed width n ++ rest = c :: text) : c.isDigit := by
  have hlen := fixed_length width n
  cases hds : fixed width n with
  | nil =>
      rw [hds, List.length_nil] at hlen
      omega
  | cons d ds =>
      rw [hds, List.cons_append, List.cons.injEq] at h
      apply isDigit_of_mem_fixed
      rw [hds, ← h.1]
      exact List.mem_cons_self

theorem value_cons_zero (ds : List Char) : value ('0' :: ds) = value ds := rfl

theorem value_dropWhile_zero (ds : List Char) :
    value (ds.dropWhile (· == '0')) = value ds := by
  induction ds with
  | nil => rfl
  | cons c ds ih =>
      by_cases hc : c = '0'
      · rw [hc, List.dropWhile_cons_of_pos (by rfl), ih, value_cons_zero]
      · rw [List.dropWhile_cons_of_neg (by simpa using hc)]

end Daybook.Digits
