import Daybook.Error
import Daybook.Proofs.Except
import Mathlib.Data.List.Nodup

namespace Daybook

/-- How records are kept in the rows of a table and listed: some rows are, in an order. A record that is
read has the identifier of its row, and it is open if its row is listed and not otherwise. -/
structure Listing (ρ α : Type) where
  key : ρ → Int
  read : ρ → Except Error α
  isListed : ρ → Bool
  before : ρ → ρ → Prop
  id : α → Int
  isOpen : α → Prop
  id_of_read : ∀ {row record}, read row = .ok record → id record = key row
  isOpen_iff : ∀ {row record}, read row = .ok record → (isOpen record ↔ isListed row = true)
  asymm : ∀ {a b}, before a b → ¬before b a

namespace Listing

variable {ρ α : Type} (listing : Listing ρ α)

/-- What is listed of some rows agrees with single reads. The records are in the order of their rows, and
a record is listed if it is found by its identifier and is open. When there is a fault, it is that of the
first of the listed rows that cannot be read. -/
structure Agrees (rows : List ρ) (get : Int → Except Error α) (list : Except Error (List α)) :
    Prop where
  ordered : ∀ {records}, list = .ok records → records.Pairwise fun x y =>
    ∃ a ∈ rows, ∃ b ∈ rows, listing.key a = listing.id x ∧ listing.key b = listing.id y ∧
      listing.before a b
  mem_iff : ∀ {records}, list = .ok records → ∀ id x,
    x ∈ records ∧ listing.id x = id ↔ get id = .ok x ∧ listing.isOpen x
  fault_iff : ∀ {e}, list = .error e ↔ ∃ row ∈ rows, listing.isListed row = true ∧
    get (listing.key row) = .error e ∧ ∀ other ∈ rows, listing.isListed other = true →
      listing.before other row → ∃ x, get (listing.key other) = .ok x

/-- The rows that are listed of two tables are the same. -/
def Same (rows rows' : List ρ) : Prop :=
  ∀ row, listing.isListed row = true → (row ∈ rows ↔ row ∈ rows')

/-- The rows that are listed, in their order. -/
structure Lists (rows listed : List ρ) : Prop where
  perm : listed.Perm (rows.filter listing.isListed)
  pairwise : listed.Pairwise listing.before

variable {listing} {rows listed : List ρ}

theorem Lists.mem_iff (h : listing.Lists rows listed) {row : ρ} :
    row ∈ listed ↔ row ∈ rows ∧ listing.isListed row = true :=
  h.perm.mem_iff.trans List.mem_filter

/-- The order of the rows and what is listed of them leave no choice. -/
theorem Lists.eq_of_same {rows' listed' : List ρ} (h : listing.Lists rows listed)
    (h' : listing.Lists rows' listed') (hsame : listing.Same rows rows') : listed' = listed := by
  have hnodup : ∀ {listed : List ρ}, listed.Pairwise listing.before → listed.Nodup := by
    intro listed hpairwise
    refine hpairwise.imp ?_
    rintro a _ hab rfl
    exact listing.asymm hab hab
  -- the same rows are in both lists, each of them once
  have hperm : listed'.Perm listed := by
    refine (List.perm_ext_iff_of_nodup (hnodup h'.pairwise) (hnodup h.pairwise)).mpr fun row => ?_
    rw [h.mem_iff, h'.mem_iff]
    exact and_congr_left fun hlisted => (hsame row hlisted).symm
  refine hperm.eq_of_pairwise ?_ h'.pairwise h.pairwise
  intro a b _ _ hab hba
  exact absurd hba (listing.asymm hab)

theorem find?_key {key : ρ → Int} (h : (rows.map key).Pairwise (· < ·)) {row : ρ}
    (hrow : row ∈ rows) : rows.find? (key · == key row) = some row := by
  induction rows with
  | nil => cases hrow
  | cons first rows ih =>
      rw [List.map_cons, List.pairwise_cons] at h
      rcases List.mem_cons.mp hrow with rfl | hlater
      · exact List.find?_cons_of_pos (beq_self_eq_true (key row))
      · have hlt := h.1 (key row) (List.mem_map_of_mem hlater)
        rw [List.find?_cons_of_neg (by simpa using Int.ne_of_lt hlt), ih h.2 hlater]

variable (listing) in
/-- A single read finds a row by its identifier and reads it. -/
structure Gets (rows : List ρ) (get : Int → Except Error α) : Prop where
  found : ∀ {row}, row ∈ rows → get (listing.key row) = listing.read row
  exists_row : ∀ {id x}, get id = .ok x →
    ∃ row ∈ rows, listing.key row = id ∧ listing.read row = .ok x

theorem gets_of_row? (hkeys : (rows.map listing.key).Pairwise (· < ·)) (row? : Int → Option ρ)
    (hfind : ∀ id, row? id = rows.find? (listing.key · == id)) {get : Int → Except Error α}
    (missing : Int → Error)
    (hsome : ∀ {id row}, row? id = some row → get id = listing.read row)
    (hnone : ∀ {id}, row? id = none → get id = .error (missing id)) :
    listing.Gets rows get where
  found hrow := hsome ((hfind _).trans (find?_key hkeys hrow))
  exists_row := by
    intro id x hx
    cases hrow : row? id with
    | none => cases hx.symm.trans (hnone hrow)
    | some row =>
        have hmem := (hfind id).symm.trans hrow
        have hkey : listing.key row = id := by simpa using List.find?_some hmem
        exact ⟨row, List.mem_of_find?_eq_some hmem, hkey, (hsome hrow).symm.trans hx⟩

namespace Lists

variable {get : Int → Except Error α}

theorem ordered (h : listing.Lists rows listed) {records : List α}
    (hlist : listed.mapM listing.read = .ok records) :
    records.Pairwise fun x y => ∃ a ∈ rows, ∃ b ∈ rows,
      listing.key a = listing.id x ∧ listing.key b = listing.id y ∧ listing.before a b := by
  refine (pairwise_of_mapM hlist h.pairwise).imp ?_
  rintro x y ⟨a, ha, b, hb, hx, hy, hbefore⟩
  exact ⟨a, (h.mem_iff.mp ha).1, b, (h.mem_iff.mp hb).1, (listing.id_of_read hx).symm,
    (listing.id_of_read hy).symm, hbefore⟩

theorem mem_iff_get (h : listing.Lists rows listed) (hget : listing.Gets rows get)
    {records : List α} (hlist : listed.mapM listing.read = .ok records) (id : Int) (x : α) :
    x ∈ records ∧ listing.id x = id ↔ get id = .ok x ∧ listing.isOpen x := by
  rw [mem_iff_of_mapM hlist]
  constructor
  · rintro ⟨⟨row, hrow, hx⟩, rfl⟩
    obtain ⟨hmem, hlisted⟩ := h.mem_iff.mp hrow
    rw [listing.id_of_read hx, hget.found hmem]
    exact ⟨hx, (listing.isOpen_iff hx).mpr hlisted⟩
  · rintro ⟨hfound, hopen⟩
    obtain ⟨row, hmem, hkey, hx⟩ := hget.exists_row hfound
    have hlisted := (listing.isOpen_iff hx).mp hopen
    exact ⟨⟨row, h.mem_iff.mpr ⟨hmem, hlisted⟩, hx⟩, (listing.id_of_read hx).trans hkey⟩

theorem mem_earlier_iff {earlier later : List ρ} {row : ρ}
    (h : listing.Lists rows (earlier ++ row :: later)) {other : ρ} :
    other ∈ earlier ↔
      other ∈ rows ∧ listing.isListed other = true ∧ listing.before other row := by
  obtain ⟨-, hrest, hcross⟩ := List.pairwise_append.mp h.pairwise
  constructor
  · intro hother
    obtain ⟨hmem, hlisted⟩ := h.mem_iff.mp (List.mem_append_left (row :: later) hother)
    exact ⟨hmem, hlisted, hcross other hother row List.mem_cons_self⟩
  · rintro ⟨hmem, hlisted, hbefore⟩
    rcases List.mem_append.mp (h.mem_iff.mpr ⟨hmem, hlisted⟩) with hearlier | hnext
    · exact hearlier
    · rcases List.mem_cons.mp hnext with rfl | hlater
      · exact absurd hbefore (listing.asymm hbefore)
      · exact absurd hbefore (listing.asymm ((List.pairwise_cons.mp hrest).1 other hlater))

theorem fault_iff (h : listing.Lists rows listed) (hget : listing.Gets rows get) {e : Error} :
    listed.mapM listing.read = .error e ↔ ∃ row ∈ rows, listing.isListed row = true ∧
      get (listing.key row) = .error e ∧ ∀ other ∈ rows, listing.isListed other = true →
        listing.before other row → ∃ x, get (listing.key other) = .ok x := by
  rw [mapM_eq_error_iff]
  constructor
  · rintro ⟨earlier, row, later, rfl, hearlier, hfault⟩
    obtain ⟨hmem, hlisted⟩ := h.mem_iff.mp (List.mem_append_right earlier List.mem_cons_self)
    refine ⟨row, hmem, hlisted, (hget.found hmem).trans hfault, ?_⟩
    intro other hother hotherListed hbefore
    rw [hget.found hother]
    exact hearlier other (h.mem_earlier_iff.mpr ⟨hother, hotherListed, hbefore⟩)
  · rintro ⟨row, hmem, hlisted, hfault, hbefore⟩
    obtain ⟨earlier, later, rfl⟩ := List.append_of_mem (h.mem_iff.mpr ⟨hmem, hlisted⟩)
    refine ⟨earlier, row, later, rfl, ?_, (hget.found hmem).symm.trans hfault⟩
    intro other hother
    obtain ⟨hotherMem, hotherListed, hlt⟩ := h.mem_earlier_iff.mp hother
    rw [← hget.found hotherMem]
    exact hbefore other hotherMem hotherListed hlt

theorem agrees (h : listing.Lists rows listed) (hget : listing.Gets rows get) :
    listing.Agrees rows get (listed.mapM listing.read) :=
  ⟨h.ordered, h.mem_iff_get hget, h.fault_iff hget⟩

end Lists

end Listing

end Daybook
