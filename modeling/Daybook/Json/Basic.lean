namespace Daybook

/-- A JSON value. A number without fraction and exponent that fits 64 bits, with or without a sign, is
an integer; any other is kept as the bits of a binary64 number. -/
inductive Json where
  | null
  | bool (b : Bool)
  | int (v : Int)
  | float (bits : UInt64)
  | str (s : String)
  | arr (items : List Json)
  | obj (members : List (String × Json))

def minInt64 : Int := -9223372036854775808

def maxInt64 : Int := 9223372036854775807

def maxNat64 : Nat := 18446744073709551615

namespace Members

variable {α : Type}

/-- Enters a member at its place, unless its name is there already. -/
def insertNew (name : String) (a : α) : List (String × α) → List (String × α)
  | [] => [(name, a)]
  | (n, b) :: rest =>
      if name < n then (name, a) :: (n, b) :: rest
      else if name = n then (n, b) :: rest
      else (n, b) :: insertNew name a rest

/-- The members of a list by name. Of several members with one name the last counts. -/
def ofList (members : List (String × α)) : List (String × α) :=
  members.foldr (fun m rest => insertNew m.1 m.2 rest) []

/-- The members of a list whose latest member stands first. -/
def ofReversed (members : List (String × α)) : List (String × α) :=
  members.foldl (fun rest m => insertNew m.1 m.2 rest) []

theorem ofReversed_eq (members : List (String × α)) :
    ofReversed members = ofList members.reverse := by
  simp [ofReversed, ofList]

theorem lookup_insertNew (name key : String) (a : α) (members : List (String × α))
    (h : members.Pairwise fun m n => m.1 < n.1) :
    (insertNew name a members).lookup key =
      if key = name then some ((members.lookup name).getD a) else members.lookup key := by
  induction members with
  | nil => grind [insertNew]
  | cons m rest ih =>
      obtain ⟨n, b⟩ := m
      rw [List.pairwise_cons] at h
      have hrest := ih h.2
      rw [insertNew]
      split
      · rename_i hlt
        have hne : name ≠ n := fun he => String.lt_irrefl n (he ▸ hlt)
        have habsent : rest.lookup name = none := by
          rw [List.lookup_eq_none_iff]
          intro p hp
          have hp' := h.1 p hp
          have hlt' : name < p.1 := String.lt_trans hlt hp'
          have : name ≠ p.1 := fun he => String.lt_irrefl _ (he ▸ hlt')
          simpa using this
        grind
      · grind

end Members

end Daybook
