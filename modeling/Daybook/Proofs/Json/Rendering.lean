import Daybook.Json.Render

namespace Daybook

/-- A text that can be shown on one line. -/
def HasNoControl (text : List Char) : Prop := ∀ c ∈ text, 0x20 ≤ c.toNat

instance (text : List Char) : Decidable (HasNoControl text) := List.decidableBAll _ text

namespace HasNoControl

variable {c : Char} {text more : List Char}

theorem nil : HasNoControl [] := fun _ h => absurd h List.not_mem_nil

theorem cons (hc : 0x20 ≤ c.toNat) (h : HasNoControl text) : HasNoControl (c :: text) :=
  List.forall_mem_cons.mpr ⟨hc, h⟩

theorem append (h : HasNoControl text) (hmore : HasNoControl more) :
    HasNoControl (text ++ more) :=
  List.forall_mem_append.mpr ⟨h, hmore⟩

theorem of_digits (h : ∀ c ∈ text, c.isDigit) : HasNoControl text := by
  intro c hc
  have := h c hc
  simp only [Char.isDigit, Bool.and_eq_true, decide_eq_true_eq] at this
  have hlow : (48 : UInt32).toNat ≤ c.val.toNat := UInt32.le_iff_toNat_le.mp this.1
  exact Nat.le_trans (by decide) hlow

theorem intercalate {mark : List Char} {pieces : List (List Char)} (hmark : HasNoControl mark)
    (h : ∀ piece ∈ pieces, HasNoControl piece) : HasNoControl (mark.intercalate pieces) := by
  induction pieces with
  | nil => exact nil
  | cons piece pieces ih =>
      have hpiece := h piece List.mem_cons_self
      have hpieces : ∀ p ∈ pieces, HasNoControl p := fun p hp => h p (List.mem_cons_of_mem _ hp)
      cases pieces with
      | nil => simpa using hpiece
      | cons next pieces =>
          rw [List.intercalate_cons_cons]
          exact (hpiece.append hmark).append (ih hpieces)

end HasNoControl

open HasNoControl

theorem Digits.hasNoControl_decimal (n : Nat) : HasNoControl (decimal n) :=
  of_digits fun _ => isDigit_of_mem_decimal

theorem Digits.hasNoControl_integer (v : Int) : HasNoControl (integer v) := by
  unfold integer
  split
  · exact cons (by decide) (hasNoControl_decimal _)
  · exact hasNoControl_decimal _

namespace Decimal

theorem hasNoControl_exponentText (e : Int) : HasNoControl (exponentText e) := by
  unfold exponentText
  split
  · exact Digits.hasNoControl_integer e
  · exact cons (by decide) (Digits.hasNoControl_integer e)

theorem hasNoControl_scientific (s : Scientific) : HasNoControl s.text := by
  have hdigits : HasNoControl (Digits.decimal s.digits) := Digits.hasNoControl_decimal _
  have htake : ∀ n, HasNoControl ((Digits.decimal s.digits).take n) :=
    fun n c hc => hdigits c (List.mem_of_mem_take hc)
  have hdrop : ∀ n, HasNoControl ((Digits.decimal s.digits).drop n) :=
    fun n c hc => hdigits c (List.mem_of_mem_drop hc)
  have hzeros : ∀ n, HasNoControl (List.replicate n '0') :=
    fun n c hc => (List.mem_replicate.mp hc).2 ▸ by decide
  have hexponent := hasNoControl_exponentText
  have hpoint : 0x20 ≤ '.'.toNat := by decide
  simp only [Scientific.text]
  split
  · exact (hdigits.append (hzeros _)).append (by decide)
  · split
    · exact (htake _).append ((hdrop _).cons hpoint)
    · split
      · exact cons (by decide) (cons hpoint (hzeros _)) |>.append hdigits
      · split
        · exact hdigits.append ((hexponent _).cons (by decide))
        · exact ((htake _).append ((hdrop _).cons hpoint)).append ((hexponent _).cons (by decide))

theorem hasNoControl_text (bits : UInt64) : HasNoControl (text bits) := by
  have hunsigned : HasNoControl
      (if magnitude bits = 0 then ['0', '.', '0'] else (shortest bits).text) := by
    split
    · decide
    · exact hasNoControl_scientific _
  unfold text
  dsimp only
  split
  · exact hunsigned.cons (by decide)
  · exact hunsigned

end Decimal

namespace Json

theorem hexDigit_bounds {n : Nat} (h : n < 16) : 0x20 ≤ (hexDigit n).toNat := by
  have : ∀ n < 16, 0x20 ≤ (hexDigit n).toNat := by decide
  exact this n h

theorem hasNoControl_escape (c : Char) : HasNoControl (escape c) := by
  unfold escape
  split
  any_goals decide
  split
  · rename_i hlow
    have hunit : HasNoControl ['\\', 'u', '0', '0'] := by decide
    exact hunit.append (cons (hexDigit_bounds (by omega)) (cons (hexDigit_bounds (by omega)) nil))
  · rename_i hhigh
    exact cons (Nat.le_of_not_lt hhigh) nil

theorem hasNoControl_quoted (s : String) : HasNoControl (quoted s) := by
  refine (cons (by decide) ?_).append (by decide)
  intro c hc
  obtain ⟨d, -, hd⟩ := List.mem_flatMap.mp hc
  exact hasNoControl_escape d c hd

theorem hasNoControl_render (j : Json) : HasNoControl j.render := by
  induction j using render.induct with
  | case1 =>
      rw [render]
      decide
  | case2 =>
      rw [render]
      decide
  | case3 =>
      rw [render]
      decide
  | case4 v =>
      rw [render]
      exact Digits.hasNoControl_integer v
  | case5 bits =>
      rw [render]
      exact Decimal.hasNoControl_text bits
  | case6 s =>
      rw [render]
      exact hasNoControl_quoted s
  | case7 items ih =>
      rw [render]
      refine ((intercalate (by decide) ?_).cons (by decide)).append (by decide)
      exact List.forall_mem_map.mpr ih
  | case8 members ih =>
      rw [render]
      refine ((intercalate (by decide) ?_).cons (by decide)).append (by decide)
      refine List.forall_mem_map.mpr fun m hm => ?_
      exact (hasNoControl_quoted m.1).append ((ih m hm).cons (by decide))

theorem feed_not_mem_render (j : Json) : '\n' ∉ j.render :=
  fun h => absurd (hasNoControl_render j _ h) (by decide)

end Json

end Daybook
