import Daybook.Proofs.Disk.Rewriting

namespace Daybook

/-- A place is neither another one nor below it. -/
def Place.IsOutside (place q : Place) : Prop := ¬q <+: place

instance (place q : Place) : Decidable (place.IsOutside q) := by
  unfold Place.IsOutside
  infer_instance

theorem Place.IsOutside.above {place before q : Place} (h : place.IsOutside q)
    (hbefore : before <+: place) : before.IsOutside q :=
  fun hq => h (hq.trans hbefore)

namespace Path

/-- The steps of a path, taken from a place, do not come to another one. -/
def AvoidsFrom (q : Place) : (here : Place) → List String → Prop
  | here, [] => here.IsOutside q
  | here, step :: rest =>
      here.IsOutside q ∧ AvoidsFrom q (if step = ".." then here.dropLast else here ++ [step]) rest

instance decidableAvoidsFrom (q : Place) : (here : Place) → (steps : List String) →
    Decidable (AvoidsFrom q here steps)
  | here, [] => inferInstanceAs (Decidable (here.IsOutside q))
  | here, step :: rest =>
      have := decidableAvoidsFrom q (if step = ".." then here.dropLast else here ++ [step]) rest
      inferInstanceAs (Decidable (here.IsOutside q ∧ AvoidsFrom q _ rest))

/-- A path does not come to a place. -/
def Avoids (q : Place) (path : String) : Prop := AvoidsFrom q (Disk.startOf path) (steps path)

instance (q : Place) (path : String) : Decidable (Avoids q path) := by
  unfold Avoids
  infer_instance

variable {q here : Place}

theorem AvoidsFrom.isOutside {steps : List String} (h : AvoidsFrom q here steps) :
    here.IsOutside q := by
  cases steps with
  | nil => exact h
  | cons step rest => exact h.1

theorem AvoidsFrom.last {steps : List String} (h : AvoidsFrom q here steps) :
    Place.IsOutside (steps.foldl (fun here step =>
      if step = ".." then here.dropLast else here ++ [step]) here) q := by
  induction steps generalizing here with
  | nil => exact h
  | cons step rest ih => exact ih h.2

theorem AvoidsFrom.of_append {steps rest : List String} (h : AvoidsFrom q here (steps ++ rest)) :
    AvoidsFrom q here steps := by
  induction steps generalizing here with
  | nil => exact h.isOutside
  | cons step steps ih => exact ⟨h.1, ih h.2⟩

theorem Avoids.place {path : String} (h : Avoids q path) : (place path).IsOutside q := h.last

theorem Avoids.parent {path parent : String} (h : Avoids q path)
    (hparent : parent? path = some parent) : Avoids q parent := by
  obtain ⟨habsolute, last, hsteps⟩ := steps_of_parent? hparent
  have hstart : Disk.startOf path = Disk.startOf parent := by
    unfold Disk.startOf
    rw [habsolute]
  unfold Avoids at h
  rw [hsteps, hstart] at h
  exact h.of_append

end Path

namespace Disk

/-- The disk without what stands at a place and below it. -/
def prune (disk : Disk) (q : Place) : Disk :=
  { disk with entries := disk.entries.filter fun entry => !q.isPrefixOf entry.1 }

variable {disk : Disk} {q place : Place}

theorem find?_prune (disk : Disk) (h : place.IsOutside q) :
    (disk.prune q).find? place = disk.find? place := by
  cases place with
  | nil => rfl
  | cons name rest =>
      rw [find?_eq_lookup _ (List.cons_ne_nil _ _), find?_eq_lookup _ (List.cons_ne_nil _ _)]
      refine lookup_filter_of_pos (p := fun place => !q.isPrefixOf place) ?_ disk.entries
      rw [Bool.not_eq_true', Bool.eq_false_iff, Ne, List.isPrefixOf_iff_prefix]
      exact h

theorem find?_prune_below (disk : Disk) (hne : place ≠ []) (h : q <+: place) :
    (disk.prune q).find? place = none := by
  rw [find?_eq_lookup _ hne, List.lookup_eq_none_iff]
  intro entry hentry
  rw [bne_iff_ne]
  rintro rfl
  have hkeep : (!q.isPrefixOf entry.1) = true := (List.mem_filter.mp hentry).2
  rw [List.isPrefixOf_iff_prefix.mpr h] at hkeep
  cases hkeep

@[simp] theorem database?_prune (disk : Disk) (q : Place) (number : Nat) :
    (disk.prune q).database? number = disk.database? number := rfl

@[simp] theorem bytes?_prune (disk : Disk) (q : Place) (entry : Entry) :
    (disk.prune q).bytes? entry = disk.bytes? entry := rfl

@[simp] theorem prune_putDatabase (disk : Disk) (q : Place) (number : Nat) (db : Database) :
    (disk.prune q).putDatabase number db = (disk.putDatabase number db).prune q := rfl

@[simp] theorem prune_prune (disk : Disk) (q : Place) : (disk.prune q).prune q = disk.prune q := by
  simp only [prune, List.filter_filter, Bool.and_self]

@[simp] theorem prune_erase (disk : Disk) (q place : Place) :
    (disk.prune q).erase place = (disk.erase place).prune q := by
  simp only [prune, erase, List.filter_filter, Bool.and_comm]

theorem prune_put (disk : Disk) (h : place.IsOutside q) (entry : Entry) :
    (disk.prune q).put place entry = (disk.put place entry).prune q := by
  have hkeep : (!q.isPrefixOf place) = true := by
    rw [Bool.not_eq_true', Bool.eq_false_iff, Ne, List.isPrefixOf_iff_prefix]
    exact h
  simp only [prune, put, List.filter_cons_of_pos (p := fun e : Place × Entry =>
    !q.isPrefixOf e.1) (a := (place, entry)) hkeep, List.filter_filter, Bool.and_comm]

/-- What is put where all is taken away is taken away with it. -/
theorem put_prune_below (disk : Disk) (h : q <+: place) (entry : Entry) :
    (disk.put place entry).prune q = disk.prune q := by
  have hdrop : ¬(!q.isPrefixOf place) = true := by
    rw [Bool.not_eq_true', Bool.not_eq_false, List.isPrefixOf_iff_prefix]
    exact h
  have hkeep : ∀ there : Place, ((!q.isPrefixOf there) && (there != place)) =
      (!q.isPrefixOf there) := by
    intro there
    by_cases hthere : there = place
    · subst hthere
      rw [Bool.eq_false_iff.mpr hdrop, Bool.false_and]
    · rw [bne_iff_ne.mpr hthere, Bool.and_true]
  simp only [prune, put, List.filter_cons_of_neg (p := fun e : Place × Entry =>
    !q.isPrefixOf e.1) (a := (place, entry)) hdrop, List.filter_filter, hkeep]

theorem HasNoPart.prune (h : disk.HasNoPart place) (q : Place) : (disk.prune q).HasNoPart place := by
  intro number part intact bytes hfind
  by_cases hplace : place.IsOutside q
  · rw [find?_prune disk hplace] at hfind
    exact h number part intact bytes hfind
  · have hne : place ≠ [] := by
      rintro rfl
      cases hfind
    rw [find?_prune_below disk hne (Classical.not_not.mp hplace)] at hfind
    cases hfind

theorem follow_prune (disk : Disk) {here : Place} {names : List String}
    (h : Path.AvoidsFrom q here (names.filter (!Path.isIdle ·))) :
    (disk.prune q).follow here names = disk.follow here names := by
  induction names generalizing here with
  | nil => rfl
  | cons name rest ih =>
      rw [follow, follow]
      cases hidle : Path.isIdle name with
      | true =>
          rw [List.filter_cons_of_neg (by simp [hidle])] at h
          simp only [if_true, ih h]
      | false =>
          rw [List.filter_cons_of_pos (by simp [hidle])] at h
          obtain ⟨-, h⟩ := h
          simp only [Bool.false_eq_true, if_false]
          split at h
          · rw [if_pos ‹_›, if_pos ‹_›, ih h]
          · rename_i hup
            simp only [hup, if_false, find?_prune disk h.isOutside, ih h]

section Path

variable {path : String} (h : Path.Avoids q path)
include h

theorem approach_prune (disk : Disk) : (disk.prune q).approach path = disk.approach path := by
  rw [approach, approach, follow_prune disk h]

theorem resolve_prune (disk : Disk) : (disk.prune q).resolve path = disk.resolve path := by
  rw [resolve, resolve, approach_prune h]

theorem isOutside_of_resolve {target : Target} (hresolve : disk.resolve path = .ok target) :
    target.place.IsOutside q := by
  rw [eq_place_of_resolve hresolve]
  exact h.place

theorem lookup_prune (disk : Disk) : (disk.prune q).lookup path = disk.lookup path := by
  rw [lookup, lookup, resolve_prune h]
  cases hresolve : disk.resolve path with
  | error fault => rfl
  | ok target =>
      simp only [bind, Except.bind, find?_prune disk (isOutside_of_resolve h hresolve)]

theorem isThere_prune (disk : Disk) : (disk.prune q).isThere path = disk.isThere path := by
  rw [isThere, isThere, lookup_prune h]

theorem isDirectory_prune (disk : Disk) :
    (disk.prune q).isDirectory path = disk.isDirectory path := by
  rw [isDirectory, isDirectory, lookup_prune h]

theorem makeDirectory_prune (disk : Disk) :
    (disk.prune q).makeDirectory path = (disk.makeDirectory path).map (prune · q) := by
  rw [makeDirectory, makeDirectory, resolve_prune h]
  cases hresolve : disk.resolve path with
  | error fault => rfl
  | ok target =>
      have hplace := isOutside_of_resolve h hresolve
      simp only [bind, Except.bind, find?_prune disk hplace, prune_put disk hplace]
      cases disk.find? target.place <;> rfl

theorem ensureDirectory_prune (disk : Disk) :
    (disk.prune q).ensureDirectory path = (disk.ensureDirectory path).map id (prune · q) := by
  rw [ensureDirectory, ensureDirectory, makeDirectory_prune h, isDirectory_prune h]
  cases disk.makeDirectory path <;> rfl

end Path

theorem makeDirectoriesUpTo_prune (disk : Disk) (steps : Nat) {path : String}
    (h : Path.Avoids q path) :
    (disk.prune q).makeDirectoriesUpTo steps path =
      (disk.makeDirectoriesUpTo steps path).map id (prune · q) := by
  induction steps generalizing path with
  | zero => exact ensureDirectory_prune h disk
  | succ steps ih =>
      rw [makeDirectoriesUpTo, makeDirectoriesUpTo, makeDirectory_prune h, ensureDirectory_prune h]
      split
      · rfl
      · rcases disk.makeDirectory path with fault | after
        · cases hparent : Path.parent? path with
          | none => cases fault <;> rfl
          | some parent =>
              cases fault with
              | notFound =>
                  dsimp only [Except.map]
                  rw [ih (h.parent hparent)]
                  rcases disk.makeDirectoriesUpTo steps parent with ⟨_ | _, after⟩
                  · rfl
                  · exact ensureDirectory_prune h after
              | _ => rfl
        · rfl

theorem makeDirectories_prune (disk : Disk) {path : String} (h : Path.Avoids q path) :
    (disk.prune q).makeDirectories path = (disk.makeDirectories path).map id (prune · q) :=
  makeDirectoriesUpTo_prune disk _ h

theorem ensureParent_prune (disk : Disk) {path : String} (h : Path.Avoids q path) :
    (disk.prune q).ensureParent path = (disk.ensureParent path).map id (prune · q) := by
  rw [ensureParent, ensureParent]
  cases hparent : Path.parent? path with
  | none => rfl
  | some parent =>
      dsimp only
      rw [isThere_prune (h.parent hparent), makeDirectories_prune disk (h.parent hparent)]
      split <;> rfl

end Disk

end Daybook
