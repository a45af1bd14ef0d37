import Daybook.Proofs.Json.Reading
import Mathlib.Data.List.Forall2

namespace Daybook

namespace Members

variable {α β : Type}

/-- The last of the members of a name. -/
def last? (name : String) (members : List (String × α)) : Option α := members.reverse.lookup name

/-- Each name once, in the order of the names. -/
def IsSorted (members : List (String × α)) : Prop := members.Pairwise fun m n => m.1 < n.1

theorem mem_insertNew {name : String} {a : α} {members : List (String × α)} {m : String × α}
    (h : m ∈ insertNew name a members) : m = (name, a) ∨ m ∈ members := by
  induction members with
  | nil => exact .inl (List.mem_singleton.mp h)
  | cons first rest ih =>
      rw [insertNew] at h
      split at h
      · exact List.mem_cons.mp h
      · split at h
        · exact .inr h
        · rcases List.mem_cons.mp h with rfl | h
          · exact .inr List.mem_cons_self
          · exact (ih h).imp id (List.mem_cons_of_mem _)

theorem mem_ofList {members : List (String × α)} {m : String × α} (h : m ∈ ofList members) :
    m ∈ members := by
  induction members with
  | nil => exact h
  | cons first rest ih =>
      rcases mem_insertNew h with rfl | h
      · exact List.mem_cons_self
      · exact List.mem_cons_of_mem _ (ih h)

theorem isSorted_insertNew (name : String) (a : α) {members : List (String × α)}
    (h : IsSorted members) : IsSorted (insertNew name a members) := by
  induction members with
  | nil => exact List.pairwise_singleton _ _
  | cons first rest ih =>
      obtain ⟨hfirst, hrest⟩ := List.pairwise_cons.mp h
      rw [insertNew]
      split
      · rename_i hlt
        refine List.pairwise_cons.mpr ⟨fun m hm => ?_, h⟩
        rcases List.mem_cons.mp hm with rfl | hm
        · exact hlt
        · exact String.lt_trans hlt (hfirst m hm)
      · split
        · exact h
        · rename_i hle hne
          refine List.pairwise_cons.mpr ⟨fun m hm => ?_, ih hrest⟩
          rcases mem_insertNew hm with rfl | hm
          · exact Std.lt_of_le_of_ne (String.not_lt.mp hle) (Ne.symm hne)
          · exact hfirst m hm

theorem isSorted_ofList (members : List (String × α)) : IsSorted (ofList members) := by
  induction members with
  | nil => exact List.Pairwise.nil
  | cons first rest ih => exact isSorted_insertNew _ _ ih

theorem lookup_ofList (name : String) (members : List (String × α)) :
    (ofList members).lookup name = last? name members := by
  induction members with
  | nil => rfl
  | cons first rest ih =>
      obtain ⟨n, a⟩ := first
      have hinsert : ofList ((n, a) :: rest) = insertNew n a (ofList rest) := rfl
      have hlast : last? name ((n, a) :: rest) =
          (last? name rest).or (if name = n then some a else none) := by
        rw [last?, List.reverse_cons, List.lookup_append, ← last?, List.lookup_cons]
        split <;> simp_all
      rw [hinsert, lookup_insertNew _ _ _ _ (isSorted_ofList rest), hlast]
      split
      · rename_i hname
        subst hname
        rw [ih]
        cases last? name rest <;> rfl
      · rw [Option.or_none, ih]

theorem last?_map (f : α → β) (name : String) (members : List (String × α)) :
    last? name (members.map fun m => (m.1, f m.2)) = (last? name members).map f := by
  rw [last?, last?, ← List.map_reverse]
  induction members.reverse with
  | nil => rfl
  | cons first rest ih =>
      rw [List.map_cons, List.lookup_cons, List.lookup_cons, ih]
      cases name == first.1 <;> rfl

theorem mem_of_last? {name : String} {members : List (String × α)} {a : α}
    (h : last? name members = some a) : (name, a) ∈ members := by
  obtain ⟨earlier, later, hmembers, -⟩ := List.lookup_eq_some_iff.mp h
  rw [← List.mem_reverse, hmembers]
  exact List.mem_append_right _ List.mem_cons_self

theorem mem_iff_of_isSorted {members : List (String × α)} (h : IsSorted members)
    {m : String × α} : m ∈ members ↔ members.lookup m.1 = some m.2 := by
  constructor
  · intro hm
    obtain ⟨earlier, later, rfl⟩ := List.append_of_mem hm
    refine List.lookup_eq_some_iff.mpr ⟨earlier, later, rfl, fun n hn => ?_⟩
    have hlt : n.1 < m.1 := (List.pairwise_append.mp h).2.2 n hn m List.mem_cons_self
    exact bne_iff_ne.mpr fun heq => String.lt_irrefl _ (heq ▸ hlt)
  · intro hm
    obtain ⟨earlier, later, rfl, -⟩ := List.lookup_eq_some_iff.mp hm
    exact List.mem_append_right _ List.mem_cons_self

/-- Members in the order of their names are told by what the names stand for. -/
theorem eq_of_lookup {members others : List (String × α)} (h : IsSorted members)
    (hothers : IsSorted others) (hlookup : ∀ name, members.lookup name = others.lookup name) :
    members = others := by
  have hnodup : ∀ {ms : List (String × α)}, IsSorted ms → ms.Nodup := fun hms =>
    hms.imp fun {m n} hlt (heq : m = n) => String.lt_irrefl n.1 (heq ▸ hlt)
  have hperm : members.Perm others := (List.perm_ext_iff_of_nodup (hnodup h) (hnodup hothers)).mpr
    fun m => by rw [mem_iff_of_isSorted h, mem_iff_of_isSorted hothers, hlookup]
  exact hperm.eq_of_pairwise
    (fun m n _ _ hmn hnm => absurd (String.lt_trans hmn hnm) (String.lt_irrefl _)) h hothers

end Members

namespace Json

/-- What a written value is read back as. In an object each name is read once, with what was written
last under it. -/
inductive ReadsBack : Json → Json → Prop where
  | null : ReadsBack .null .null
  | bool (b : Bool) : ReadsBack (.bool b) (.bool b)
  | int (v : Int) : ReadsBack (.int v) (.int v)
  | float (bits : UInt64) : ReadsBack (.float bits) (.float bits)
  | str (s : String) : ReadsBack (.str s) (.str s)
  | arr {items read : List Json} (h : List.Forall₂ ReadsBack items read) :
      ReadsBack (.arr items) (.arr read)
  | obj {members read : List (String × Json)} (sorted : Members.IsSorted read)
      (h : ∀ name, Option.Rel ReadsBack (Members.last? name members) (read.lookup name)) :
      ReadsBack (.obj members) (.obj read)

theorem readsBack_canonical (j : Json) : ReadsBack j j.canonical := by
  induction j using canonical.induct with
  | case1 => rw [canonical]; exact .null
  | case2 b => rw [canonical]; exact .bool b
  | case3 v => rw [canonical]; exact .int v
  | case4 bits => rw [canonical]; exact .float bits
  | case5 s => rw [canonical]; exact .str s
  | case6 items ih =>
      rw [canonical]
      exact .arr (List.forall₂_map_right_iff.mpr (List.forall₂_same.mpr ih))
  | case7 members ih =>
      rw [canonical]
      refine .obj (Members.isSorted_ofList _) fun name => ?_
      rw [Members.lookup_ofList, Members.last?_map]
      cases hlast : Members.last? name members with
      | none => exact .none
      | some value => exact .some (ih _ (Members.mem_of_last? hlast))

theorem exists_of_rel_some {α β : Type} {R : α → β → Prop} {a : α} {b? : Option β}
    (h : Option.Rel R (some a) b?) : ∃ b, b? = some b ∧ R a b := by
  cases h with
  | some hab => exact ⟨_, rfl, hab⟩

theorem exists_of_rel_some_right {α β : Type} {R : α → β → Prop} {a? : Option α} {b : β}
    (h : Option.Rel R a? (some b)) : ∃ a, a? = some a ∧ R a b := by
  cases h with
  | some hab => exact ⟨_, rfl, hab⟩

theorem eq_map_of_forall₂ {α β : Type} {r : α → β → Prop} {f : α → β} {l : List α} {read : List β}
    (h : List.Forall₂ r l read) (hf : ∀ a ∈ l, ∀ b, r a b → b = f a) : read = l.map f := by
  induction h with
  | nil => rfl
  | cons hab hrest ih =>
      rw [List.map_cons, ← hf _ List.mem_cons_self _ hab,
        ← ih fun a ha => hf a (List.mem_cons_of_mem _ ha)]

theorem ReadsBack.eq_canonical {j read : Json} (h : ReadsBack j read) : read = j.canonical := by
  induction j using canonical.induct generalizing read with
  | case1 | case2 | case3 | case4 | case5 =>
      cases h
      rw [canonical]
  | case6 items ih =>
      cases h with
      | arr hitems => rw [canonical, eq_map_of_forall₂ hitems fun j hj _ => ih j hj]
  | case7 members ih =>
      cases h with
      | @obj _ read sorted hlookup =>
          rw [canonical]
          refine congrArg Json.obj (Members.eq_of_lookup sorted (Members.isSorted_ofList _) ?_)
          intro name
          rw [Members.lookup_ofList, Members.last?_map]
          have hname := hlookup name
          generalize read.lookup name = found at hname
          cases hlast : Members.last? name members with
          | none =>
              rw [hlast] at hname
              cases hname
              rfl
          | some value =>
              rw [hlast] at hname
              cases hname with
              | some hvalue => rw [ih _ (Members.mem_of_last? hlast) hvalue, Option.map_some]

/-- The canonical form of a value is what it is read back as. -/
theorem readsBack_iff {j read : Json} : ReadsBack j read ↔ read = j.canonical :=
  ⟨ReadsBack.eq_canonical, fun h => h ▸ readsBack_canonical j⟩

end Json

end Daybook
