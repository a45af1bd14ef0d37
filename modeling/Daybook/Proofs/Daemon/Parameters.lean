import Daybook.Proofs.Daemon.Failure

namespace Daybook

namespace Params

variable {p q : Params} {names : List String} {name : String}

/-- Under each of these names the same was given, or nothing. -/
def AgreesOn (names : List String) (p q : Params) : Prop :=
  ∀ name ∈ names, p.get? name = q.get? name

theorem AgreesOn.cons_iff :
    AgreesOn (name :: names) p q ↔ p.get? name = q.get? name ∧ AgreesOn names p q :=
  List.forall_mem_cons

theorem optionalText_congr (h : p.get? name = q.get? name) :
    p.optionalText name = q.optionalText name := by
  rw [optionalText, optionalText, h]

theorem text_congr (h : p.get? name = q.get? name) : p.text name = q.text name := by
  rw [text, text, optionalText_congr h]

theorem optionalInteger_congr (h : p.get? name = q.get? name) :
    p.optionalInteger name = q.optionalInteger name := by
  rw [optionalInteger, optionalInteger, h]

theorem integer_congr (h : p.get? name = q.get? name) : p.integer name = q.integer name := by
  rw [integer, integer, optionalInteger_congr h]

theorem optionalCount_congr (h : p.get? name = q.get? name) :
    p.optionalCount name = q.optionalCount name := by
  rw [optionalCount, optionalCount, optionalInteger_congr h]

theorem optionalParsed_congr {α : Type} (parse : String → Except Error α)
    (h : p.get? name = q.get? name) :
    p.optionalParsed parse name = q.optionalParsed parse name := by
  rw [optionalParsed, optionalParsed, optionalText_congr h]

/-- Each name stands for one value at most. -/
def IsMap (p : Params) : Prop := (p.members.map Prod.fst).Nodup

instance (p : Params) : Decidable p.IsMap := by unfold IsMap; infer_instance

/-- Whether a method looks at a member. Of a method that does not exist nothing is known but that
null counts as nothing. -/
def isSeenBy (method : Option Method) : String × Json → Bool
  | (_, .null) => false
  | (name, _) => method.all fun m => m.parameters.contains name

/-- The parameters without those that are null and those that the method does not look at. -/
def seenBy (p : Params) (method : Option Method) : Params :=
  ⟨p.members.filter (isSeenBy method)⟩

theorem lookup_filter_isSeenBy {members : List (String × Json)} (method : Option Method)
    (h : (members.map Prod.fst).Nodup) :
    (members.filter (isSeenBy method)).lookup name =
      (members.lookup name).filter fun j => isSeenBy method (name, j) := by
  induction members with
  | nil => rfl
  | cons first rest ih =>
      obtain ⟨n, j⟩ := first
      obtain ⟨hfirst, hrest⟩ := List.nodup_cons.mp h
      rw [List.filter_cons, List.lookup_cons]
      by_cases hname : name = n
      · subst hname
        -- a member that is left out must not uncover another one of its name
        have hlater : rest.lookup name = none := List.lookup_eq_none_iff.mpr fun m hm =>
          bne_iff_ne.mpr fun heq => hfirst (List.mem_map.mpr ⟨m, hm, heq.symm⟩)
        cases hseen : isSeenBy method (name, j) <;>
          simp [ih hrest, hlater, hseen, Option.filter_some]
      · have hbeq : (name == n) = false := beq_false_of_ne hname
        split <;> simp [List.lookup_cons, ih hrest, hbeq]

theorem agreesOn_seenBy (h : p.IsMap) (m : Method) :
    AgreesOn m.parameters (p.seenBy (some m)) p := by
  intro name hname
  have hseen : ∀ j, isSeenBy (some m) (name, j) = true ∨ j = .null := by
    intro j
    cases j with
    | null => exact .inr rfl
    | bool | int | float | str | arr | obj => exact .inl (List.contains_iff_mem.mpr hname)
  rw [get?, get?, seenBy, lookup_filter_isSeenBy _ h]
  cases p.members.lookup name with
  | none => rfl
  | some j =>
      rcases hseen j with hj | rfl
      · rw [Option.filter_some, if_pos hj]
      · rfl

end Params

namespace Daemon

open Params Outcome

variable {p q : Params}

theorem newTask_congr (h : AgreesOn Method.createTask.parameters p q) : newTask p = newTask q := by
  simp only [Method.parameters, AgreesOn.cons_iff] at h
  rw [newTask, newTask, text_congr h.1, optionalParsed_congr _ h.2.1, optionalText_congr h.2.2.1]

theorem searchTerms_congr (config : Config) (h : AgreesOn Method.searchNotes.parameters p q) :
    searchTerms config p = searchTerms config q := by
  simp only [Method.parameters, AgreesOn.cons_iff] at h
  rw [searchTerms, searchTerms, text_congr h.1, optionalCount_congr h.2.1]

theorem reminderTerms_congr (config : Config) (h : AgreesOn Method.createReminder.parameters p q) :
    reminderTerms config p = reminderTerms config q := by
  simp only [Method.parameters, AgreesOn.cons_iff] at h
  rw [reminderTerms, reminderTerms, text_congr h.1, optionalInteger_congr h.2.1]

/-- What a method does is decided by the parameters that it looks at. -/
theorem perform_congr (daemon : Daemon) (now : Instant) {m : Method}
    (h : AgreesOn m.parameters p q) (disk : Disk) :
    daemon.perform now m p disk = daemon.perform now m q disk := by
  cases m with
  | takeNote =>
      rw [perform, perform, text_congr (h _ List.mem_cons_self)]
  | searchNotes => rw [perform, perform, searchTerms_congr _ h]
  | createTask => rw [perform, perform, newTask_congr h]
  | completeTask =>
      rw [perform, perform, integer_congr (h _ List.mem_cons_self)]
  | createReminder => rw [perform, perform, reminderTerms_congr _ h]
  | cancelReminder =>
      rw [perform, perform, integer_congr (h _ List.mem_cons_self)]
  | listTasks | listReminders => rfl

/-- What is null or not looked at may be left out: the answer and the disk are the same. -/
theorem invoke_seenBy (daemon : Daemon) (now : Instant) (method : String) (p : Params)
    (h : p.IsMap) (disk : Disk) :
    daemon.invoke now method (p.seenBy (Method.ofName? method)) disk =
      daemon.invoke now method p disk := by
  unfold invoke
  cases Method.ofName? method with
  | none => rfl
  | some m => exact perform_congr daemon now (agreesOn_seenBy h m) disk

/-- Parameters of a reminder, of which two count. -/
def crowdedParams : Params :=
  ⟨[("minutes", .null), ("color", .str "red"), ("title", .str "tea"), ("priority", .int 3),
    ("reminder_id", .null)]⟩

theorem invoke_seenBy_crowdedParams :
    crowdedParams.IsMap ∧
      newDaemon.invoke .epoch "create_reminder" ⟨[("title", .str "tea")]⟩ newDisk =
        newDaemon.invoke .epoch "create_reminder" crowdedParams newDisk ∧
      newDaemon.invoke .epoch "make_tea"
          ⟨[("color", .str "red"), ("title", .str "tea"), ("priority", .int 3)]⟩ newDisk =
        newDaemon.invoke .epoch "make_tea" crowdedParams newDisk :=
  have hmap : crowdedParams.IsMap := by decide
  ⟨hmap, invoke_seenBy newDaemon .epoch "create_reminder" crowdedParams hmap newDisk,
    invoke_seenBy newDaemon .epoch "make_tea" crowdedParams hmap newDisk⟩

end Daemon

end Daybook
