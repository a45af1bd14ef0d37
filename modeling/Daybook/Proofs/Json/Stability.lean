import Daybook.Proofs.Json.Canonical
import Daybook.Proofs.Json.Steps

/-!
What a reader yields is in its canonical form and fits the reader again: its integers have 64 bits,
its objects have each name once and in order, and its lists and objects are nested no deeper than
the reader goes. So a value that was read is written and read back as it is, unless there is a
binary64 number in it.
-/

namespace Daybook.Json

/-- No number of a value is a binary64 number. -/
inductive HasNoFloat : Json → Prop where
  | null : HasNoFloat .null
  | bool (b : Bool) : HasNoFloat (.bool b)
  | int (v : Int) : HasNoFloat (.int v)
  | str (s : String) : HasNoFloat (.str s)
  | arr {items : List Json} (h : ∀ item ∈ items, HasNoFloat item) : HasNoFloat (.arr items)
  | obj {members : List (String × Json)} (h : ∀ m ∈ members, HasNoFloat m.2) :
      HasNoFloat (.obj members)

section Loops

variable {α σ : Type} {first : Bool} {text rest : List Char}

theorem ListRead.forall_mem {item : List Char → Except Fault (α × List Char)} {l : List α}
    (h : ListRead item first text l rest) : ∀ a ∈ l, ∃ text rest, item text = .ok (a, rest) := by
  induction h with
  | nil => exact fun _ ha => absurd ha List.not_mem_nil
  | first ha _ ih => exact List.forall_mem_cons.mpr ⟨⟨_, _, ha⟩, ih⟩
  | next _ ha _ ih => exact List.forall_mem_cons.mpr ⟨⟨_, _, ha⟩, ih⟩

theorem ObjectRead.keeps {member : String → σ → List Char → Except Fault (σ × List Char)}
    {Kept : σ → Prop} (hmember : ∀ {name s text s' rest}, Kept s →
      member name s text = .ok (s', rest) → Kept s') {s last : σ}
    (h : ObjectRead member first s text last rest) (hs : Kept s) : Kept last := by
  induction h with
  | nil => exact hs
  | first _ _ hread _ ih => exact ih (hmember hs hread)
  | next _ _ _ hread _ ih => exact ih (hmember hs hread)

end Loops

/-- All members have values that were read. -/
def AllRead (depth : Nat) (entered : List (String × Json)) : Prop :=
  ∀ m ∈ entered, ∃ text rest, value depth text = .ok (m.2, rest)

theorem allRead_of_enter {depth : Nat} {name : String} {entered after : List (String × Json)}
    {text rest : List Char} (hentered : AllRead depth entered)
    (h : enter (value depth) name entered text = .ok (after, rest)) : AllRead depth after := by
  obtain ⟨inner, j, -, hj, rfl⟩ := enter_eq_ok h
  exact List.forall_mem_cons.mpr ⟨⟨inner, rest, hj⟩, hentered⟩

theorem isStable_of_isReadAs {n : Numeral} {j : Json} (h : n.IsReadAs j) (hfloat : HasNoFloat j)
    (depth : Nat) : IsStable depth j := by
  cases h with
  | integer _ low high => exact .int low high
  | float => cases hfloat

/-- A value that was read is read back as it is, unless there is a binary64 number in it. -/
theorem isStable_of_value {depth : Nat} {text rest : List Char} {j : Json}
    (h : value depth text = .ok (j, rest)) (hfloat : HasNoFloat j) : IsStable depth j := by
  induction depth using Nat.strongRecOn generalizing text rest j with
  | ind depth ih =>
      cases value_eq_ok h with
      | null => exact ⟨.null, by rw [canonical]⟩
      | yes => exact .bool true
      | no => exact .bool false
      | number _ _ hread => exact isStable_of_isReadAs hread hfloat depth
      | str => exact .str _
      | @arr below js _ _ hdepth _ hitems =>
          subst hdepth
          cases hfloat with
          | arr hfloat =>
              refine .arr fun item hitem => ?_
              obtain ⟨_, _, hread⟩ := hitems.forall_mem item hitem
              exact ih below (Nat.lt_succ_self below) hread (hfloat item hitem)
      | @obj below entered _ _ hdepth _ hmembers =>
          subst hdepth
          have hread : AllRead below entered :=
            hmembers.keeps allRead_of_enter fun _ hm => absurd hm List.not_mem_nil
          rw [Members.ofReversed_eq] at hfloat ⊢
          cases hfloat with
          | obj hfloat =>
              refine .obj (List.pairwise_map.mpr (Members.isSorted_ofList _)) fun m hm => ?_
              obtain ⟨_, _, hm'⟩ := hread m (List.mem_reverse.mp (Members.mem_ofList hm))
              exact ih below (Nat.lt_succ_self below) hm' (hfloat m hm)

end Daybook.Json
