import Daybook.Proofs.Column
import Daybook.Proofs.Daemon.Serving
import Daybook.Proofs.Json.Reading
import Daybook.Wire.Reply

namespace Daybook

open Json

def IsInt64 (v : Int) : Prop := minInt64 ≤ v ∧ v ≤ maxInt64

instance (v : Int) : Decidable (IsInt64 v) := by unfold IsInt64; infer_instance

section Values

variable {depth : Nat}

theorem isStable_id {v : Int} (h : IsInt64 v) : IsStable depth (.int v) :=
  .int h.1 (Int.le_trans h.2 (by decide))

theorem asInteger?_int {v : Int} (h : IsInt64 v) : (Json.int v).asInteger? = some v := if_pos h

theorem asInstant?_toJson (t : Instant) : t.toJson.asInstant? = some t := by
  rw [Instant.toJson, asInstant?, String.toList_ofList, Instant.ofWireText?_wireText]

theorem isStable_match {m : NoteMatch} (h : m.line ≤ maxNat64) :
    IsStable (depth + 1) m.toJson := by
  refine .obj (show ["context", "filename", "line"].Pairwise (· < ·) by decide) ?_
  simp only [List.forall_mem_cons]
  exact ⟨.str _, .str _, .int (Int.le_trans (by decide) (Int.natCast_nonneg _)) (by omega),
    fun _ hm => absurd hm List.not_mem_nil⟩

theorem asMatch?_toJson {m : NoteMatch} (h : m.line ≤ maxNat64) : m.toJson.asMatch? = some m := by
  have hline : (Json.int m.line).asCount? = some m.line := by
    rw [asCount?, if_pos ⟨Int.natCast_nonneg _, by omega⟩, Int.toNat_natCast]
  have hrecord : m.toJson.asRecord? ["filename", "line", "context"] =
      some [.str m.filename, .int m.line, .str m.context] := rfl
  simp only [asMatch?, hrecord, Option.bind_eq_bind, Option.bind_some, asText?, hline,
    Option.pure_def]

theorem isStable_task {task : TaskSummary} (h : IsInt64 task.id) :
    IsStable (depth + 1) task.toJson := by
  refine .obj (show ["id", "priority", "title"].Pairwise (· < ·) by decide) ?_
  simp only [List.forall_mem_cons]
  exact ⟨isStable_id h, .str _, .str _, fun _ hm => absurd hm List.not_mem_nil⟩

theorem asTask?_toJson {task : TaskSummary} (h : IsInt64 task.id) :
    task.toJson.asTask? = some task := by
  have hrecord : task.toJson.asRecord? ["id", "title", "priority"] =
      some [.int task.id, .str task.title, .str task.priority.name] := rfl
  simp only [asTask?, hrecord, Option.bind_eq_bind, Option.bind_some, asInteger?_int h, asText?,
    asNamed?, Priority.ofName?_name, Option.pure_def]

theorem isStable_reminder {r : ReminderSummary} (h : IsInt64 r.id) :
    IsStable (depth + 1) r.toJson := by
  refine .obj (show ["id", "status", "title", "trigger_time"].Pairwise (· < ·) by decide) ?_
  simp only [List.forall_mem_cons]
  exact ⟨isStable_id h, .str _, .str _, .str _, fun _ hm => absurd hm List.not_mem_nil⟩

theorem asReminder?_toJson {r : ReminderSummary} (h : IsInt64 r.id) :
    r.toJson.asReminder? = some r := by
  have hrecord : r.toJson.asRecord? ["id", "title", "trigger_time", "status"] =
      some [.int r.id, .str r.title, r.triggerTime.toJson, .str r.status.name] := rfl
  simp only [asReminder?, hrecord, Option.bind_eq_bind, Option.bind_some, asInteger?_int h, asText?,
    asInstant?_toJson, asNamed?, ReminderStatus.ofName?_name, Option.pure_def]

theorem isStable_list {α : Type} {write : α → Json} {l : List α}
    (h : ∀ a ∈ l, IsStable depth (write a)) : IsStable (depth + 1) (.arr (l.map write)) :=
  .arr (List.forall_mem_map.mpr h)

theorem asList?_arr {α : Type} {write : α → Json} {read? : Json → Option α} {l : List α}
    (h : ∀ a ∈ l, read? (write a) = some a) : (Json.arr (l.map write)).asList? read? = some l :=
  mapM_map_eq_pure h

end Values

namespace Payload

/-- Identifiers are integers of 64 bits, and so are line numbers, which have no sign. -/
def IsInRange : Payload → Prop
  | .ack | .message _ => True
  | .searchResults results => ∀ m ∈ results, m.line ≤ maxNat64
  | .taskCreated _ id => IsInt64 id
  | .taskList tasks => ∀ task ∈ tasks, IsInt64 task.id
  | .reminderCreated _ id _ => IsInt64 id
  | .reminderList reminders => ∀ r ∈ reminders, IsInt64 r.id

theorem isStable_members {payload : Payload} (h : payload.IsInRange) {depth : Nat} :
    ∀ m ∈ payload.members, IsStable (depth + 2) m.2 := by
  cases payload with
  | ack => exact fun _ hm => absurd hm List.not_mem_nil
  | message text => exact List.forall_mem_singleton.mpr (.str _)
  | searchResults results =>
      exact List.forall_mem_singleton.mpr (isStable_list fun m hm => isStable_match (h m hm))
  | taskCreated text id =>
      exact List.forall_mem_cons.mpr ⟨isStable_id h, List.forall_mem_singleton.mpr (.str _)⟩
  | taskList tasks =>
      exact List.forall_mem_singleton.mpr (isStable_list fun task htask => isStable_task (h task htask))
  | reminderCreated text id triggerTime =>
      exact List.forall_mem_cons.mpr ⟨isStable_id h,
        List.forall_mem_cons.mpr ⟨.str _, List.forall_mem_singleton.mpr (.str _)⟩⟩
  | reminderList reminders =>
      exact List.forall_mem_singleton.mpr (isStable_list fun r hr => isStable_reminder (h r hr))

/-- The names of what a request yielded, in their order. -/
def names : Payload → List String
  | .ack => []
  | .message _ => ["message"]
  | .searchResults _ => ["results"]
  | .taskCreated _ _ => ["id", "message"]
  | .taskList _ => ["tasks"]
  | .reminderCreated _ _ _ => ["id", "message", "trigger_time"]
  | .reminderList _ => ["reminders"]

theorem map_fst_members (payload : Payload) : payload.members.map Prod.fst = payload.names := by
  cases payload <;> rfl

/-- The names of the members that say how a request ended. -/
def reservedNames : List String := ["success", "error", "kind"]

theorem pairwise_names (payload : Payload) :
    payload.names.Pairwise (· < ·) ∧ ∀ name ∈ payload.names, name ∉ reservedNames := by
  have hmem : payload.names ∈ [[], ["message"], ["results"], ["id", "message"], ["tasks"],
      ["id", "message", "trigger_time"], ["reminders"]] := by
    cases payload <;> simp [names]
  revert hmem
  generalize payload.names = ns
  revert ns
  decide

end Payload

namespace Reply

variable {draft : Draft} {rest : List Char}

theorem once_colon {α : Type} {name : String} {read : List Char → Except Fault (α × List Char)}
    {c : Char} {text : List Char} {a : α} (hread : read (c :: text) = .ok (a, rest)) :
    once name false read (':' :: c :: text) = .ok (a, rest) := by
  have hcolon : colon (':' :: c :: text) = .ok (c :: text) := by
    rw [colon, skipGap_cons (by decide)]
    rfl
  rw [once, hcolon]
  exact hread

theorem optional_quote {α : Type} {read : List Char → Except Fault (α × List Char)}
    {text : List Char} {a : α} (hread : read ('"' :: text) = .ok (a, rest)) :
    optional read ('"' :: text) = .ok (some a, rest) := by
  have hsome : optional read ('"' :: text) =
      (read ('"' :: text)).map fun read => (some read.1, read.2) := by
    rw [optional, skipGap_cons (by decide)]
    rfl
  rw [hsome, hread]
  rfl

theorem member_success (h : draft.success = none) (b : Bool) :
    member "success" draft (':' :: (Json.bool b).render ++ rest) =
      .ok ({ draft with success := some b }, rest) := by
  have htruth : ∃ c text, (Json.bool b).render ++ rest = c :: text ∧
      truth (c :: text) = .ok (b, rest) := by
    cases b <;> rw [render] <;> exact ⟨_, _, rfl, rfl⟩
  obtain ⟨c, text, hrender, hread⟩ := htruth
  rw [List.cons_append, hrender, member, h, Option.isSome_none, once_colon hread]
  rfl

theorem member_error (h : draft.error = none) (s : String) :
    member "error" draft (':' :: (Json.str s).render ++ rest) =
      .ok ({ draft with error := some (some s) }, rest) := by
  obtain ⟨text, hquoted, hstring⟩ := string_quoted s rest
  have hread : textValue "a string" ('"' :: text) = .ok (s, rest) := by
    rw [textValue, skipGap_cons (by decide)]
    exact hstring
  rw [render, List.cons_append, hquoted, member, h, Option.isSome_none,
    once_colon (optional_quote hread)]
  rfl

theorem member_kind (h : draft.kind = none) (kind : FailureKind) :
    member "kind" draft (':' :: (Json.str kind.name).render ++ rest) =
      .ok ({ draft with kind := some (some kind) }, rest) := by
  obtain ⟨text, hquoted, hstring⟩ := string_quoted kind.name rest
  have hread : kindValue ('"' :: text) = .ok (kind, rest) := by
    rw [kindValue, skipGap_cons (by decide)]
    simp only [kindName, hstring, Except.bind, bind, FailureKind.ofName?_name]
    rfl
  rw [render, List.cons_append, hquoted, member, h, Option.isSome_none,
    once_colon (optional_quote hread)]
  rfl

theorem member_field {name : String} (hname : name ∉ Payload.reservedNames) {j : Json}
    (hj : IsStable (maxDepth - 1) j) (hrest : EndsNumber rest) :
    member name draft (':' :: j.render ++ rest) =
      .ok ({ draft with fields := (name, j) :: draft.fields }, rest) := by
  have henter := enter_colon (value_render hj.fits hrest) name draft.fields
  rw [hj.canonical_eq] at henter
  simp only [Payload.reservedNames, List.mem_cons, List.not_mem_nil, or_false, not_or] at hname
  unfold member
  split
  · exact absurd rfl hname.1
  · exact absurd rfl hname.2.1
  · exact absurd rfl hname.2.2
  · rw [henter]
    rfl

theorem reads_fields {ms : List (String × Json)} (hnames : ∀ m ∈ ms, m.1 ∉ Payload.reservedNames)
    (hms : ∀ m ∈ ms, IsStable (maxDepth - 1) m.2) (draft : Draft) :
    Reads member draft ms { draft with fields := ms.reverse ++ draft.fields } := by
  induction ms generalizing draft with
  | nil => exact .nil
  | cons m ms ih =>
      refine .cons (fun rest hrest => member_field (hnames m List.mem_cons_self)
        (hms m List.mem_cons_self) hrest) ?_
      have hmore := ih (fun k hk => hnames k (List.mem_cons_of_mem _ hk))
        (fun k hk => hms k (List.mem_cons_of_mem _ hk)) { draft with fields := m :: draft.fields }
      rw [List.reverse_cons, List.append_assoc]
      exact hmore

theorem decode_render_obj {ms : List (String × Json)} {draft : Draft}
    (h : Reads member ⟨none, none, none, []⟩ ms draft) {b : Bool} (hb : draft.success = some b) :
    decode (Json.obj ms).render =
      .ok ⟨b, draft.error.join, draft.kind.join, Members.ofReversed draft.fields⟩ := by
  have hbudget : ms.length < ([','].intercalate (ms.map memberText) ++ '\x7d' :: []).length :=
    length_lt_intercalate (fun m _ => List.cons_ne_nil _ _) _ _
  have hmembers := members_of_intercalate h hbudget []
  have hobject : (Json.obj ms).render =
      '\x7b' :: ([','].intercalate (ms.map memberText) ++ '\x7d' :: []) := by
    rw [render]
    rfl
  have hdecode : ∀ text, decode ('\x7b' :: text) = (body text >>= finish) := by
    intro text
    rw [decode, skipGap_cons (by decide)]
    rfl
  rw [hobject, hdecode, body, hmembers]
  simp only [Except.bind, bind, hb]
  rfl

theorem decode_success {payload : Payload} (h : payload.IsInRange) :
    decode (Response.success payload).line = .ok ⟨true, none, none, payload.members⟩ := by
  have hnames := payload.pairwise_names
  rw [← payload.map_fst_members] at hnames
  have hreads : Reads member ⟨none, none, none, []⟩ (("success", .bool true) :: payload.members)
      ⟨some true, none, none, payload.members.reverse ++ []⟩ := by
    refine .cons (fun rest _ => member_success rfl true) ?_
    exact reads_fields (fun m hm => hnames.2 m.1 (List.mem_map_of_mem hm))
      (payload.isStable_members h) _
  have hdecode := decode_render_obj hreads rfl
  rw [List.append_nil, Members.ofReversed_eq, List.reverse_reverse,
    Members.ofList_of_pairwise (List.pairwise_map.mp hnames.1)] at hdecode
  exact hdecode

theorem decode_failure (f : Failure) :
    decode (Response.failure f).line = .ok ⟨false, some f.message, some f.kind, []⟩ := by
  have hreads : Reads member ⟨none, none, none, []⟩
      [("success", .bool false), ("error", .str f.message), ("kind", .str f.kind.name)]
      ⟨some false, some (some f.message), some (some f.kind), []⟩ :=
    .cons (fun rest _ => member_success rfl false)
      (.cons (fun rest _ => member_error rfl f.message)
        (.cons (fun rest _ => member_kind rfl f.kind) .nil))
  exact decode_render_obj hreads rfl

end Reply

/-- A reply has the names of what was yielded and no others, and under each the value that was
yielded. -/
def Payload.IsCarriedBy (reply : Reply) (payload : Payload) : Prop :=
  reply.fields.map Prod.fst = payload.names ∧
    match payload with
    | .ack => True
    | .message text => reply.field? asText? "message" = some text
    | .searchResults results => reply.field? (asList? asMatch?) "results" = some results
    | .taskCreated text id =>
        reply.field? asText? "message" = some text ∧ reply.field? asInteger? "id" = some id
    | .taskList tasks => reply.field? (asList? asTask?) "tasks" = some tasks
    | .reminderCreated text id triggerTime =>
        reply.field? asText? "message" = some text ∧ reply.field? asInteger? "id" = some id ∧
          reply.field? asInstant? "trigger_time" = some triggerTime
    | .reminderList reminders =>
        reply.field? (asList? asReminder?) "reminders" = some reminders

namespace Response

def IsInRange : Response → Prop
  | success payload => payload.IsInRange
  | failure _ => True

/-- A reply tells all that a response holds. -/
def IsCarriedBy (reply : Reply) : Response → Prop
  | success payload =>
      reply.success = true ∧ reply.error = none ∧ reply.kind = none ∧ payload.IsCarriedBy reply
  | failure f =>
      reply.success = false ∧ reply.error = some f.message ∧ reply.kind = some f.kind ∧
        reply.fields = []

end Response

theorem Payload.isCarriedBy_members {payload : Payload} (h : payload.IsInRange) :
    payload.IsCarriedBy ⟨true, none, none, payload.members⟩ := by
  refine ⟨payload.map_fst_members, ?_⟩
  cases payload with
  | ack => trivial
  | message text => rfl
  | searchResults results => exact asList?_arr fun m hm => asMatch?_toJson (h m hm)
  | taskCreated text id => simp [Reply.field?, members, List.lookup_cons, asText?, asInteger?_int h]
  | taskList tasks => exact asList?_arr fun task htask => asTask?_toJson (h task htask)
  | reminderCreated text id triggerTime =>
      simp [Reply.field?, members, List.lookup_cons, asText?, asInteger?_int h, asInstant?_toJson]
  | reminderList reminders => exact asList?_arr fun r hr => asReminder?_toJson (h r hr)

theorem Payload.eq_of_isCarriedBy {reply : Reply} {payload other : Payload}
    (h : payload.IsCarriedBy reply) (hother : other.IsCarriedBy reply) : payload = other := by
  obtain ⟨hnames, h⟩ := h
  obtain ⟨hothernames, hother⟩ := hother
  rw [hnames] at hothernames
  -- No two kinds of payload have the same names.
  cases payload <;> cases other <;> simp [names] at hothernames
  case ack.ack => rfl
  case message.message => rw [Option.some.inj (h.symm.trans hother)]
  case searchResults.searchResults => rw [Option.some.inj (h.symm.trans hother)]
  case taskCreated.taskCreated =>
    rw [Option.some.inj (h.1.symm.trans hother.1), Option.some.inj (h.2.symm.trans hother.2)]
  case taskList.taskList => rw [Option.some.inj (h.symm.trans hother)]
  case reminderCreated.reminderCreated =>
    rw [Option.some.inj (h.1.symm.trans hother.1), Option.some.inj (h.2.1.symm.trans hother.2.1),
      Option.some.inj (h.2.2.symm.trans hother.2.2)]
  case reminderList.reminderList => rw [Option.some.inj (h.symm.trans hother)]

theorem Response.eq_of_isCarriedBy {reply : Reply} {r other : Response}
    (h : r.IsCarriedBy reply) (hother : other.IsCarriedBy reply) : r = other := by
  cases r with
  | success payload =>
      obtain ⟨hsuccess, -, -, h⟩ := h
      cases other with
      | success payload' =>
          obtain ⟨-, -, -, hother⟩ := hother
          rw [Payload.eq_of_isCarriedBy h hother]
      | failure f =>
          obtain ⟨hfailure, -⟩ := hother
          rw [hsuccess] at hfailure
          cases hfailure
  | failure f =>
      obtain ⟨hfailure, hmessage, hkind, -⟩ := h
      cases other with
      | success payload =>
          obtain ⟨hsuccess, -⟩ := hother
          rw [hfailure] at hsuccess
          cases hsuccess
      | failure f' =>
          obtain ⟨-, hmessage', hkind', -⟩ := hother
          obtain ⟨kind, message⟩ := f
          obtain ⟨kind', message'⟩ := f'
          obtain rfl : message = message' := Option.some.inj (hmessage.symm.trans hmessage')
          obtain rfl : kind = kind' := Option.some.inj (hkind.symm.trans hkind')
          rfl

namespace Response

theorem exists_isCarriedBy {r : Response} (h : r.IsInRange) :
    ∃ reply, Reply.decode r.line = .ok reply ∧ reply.success = r.isSuccess ∧ r.IsCarriedBy reply := by
  cases r with
  | success payload =>
      exact ⟨_, Reply.decode_success h, rfl, rfl, rfl, rfl, payload.isCarriedBy_members h⟩
  | failure f => exact ⟨_, Reply.decode_failure f, rfl, rfl, rfl, rfl, rfl⟩

/-- A response is one line of text, from which a reply is read that tells all it holds. Different
responses are different lines. -/
theorem bytes_isCarriedBy (r : Response) (h : r.IsInRange) :
    (∃ bytes, r.bytes = bytes ++ [lineFeed] ∧ lineFeed ∉ bytes ∧
        Utf8.decode? bytes = some r.line) ∧
      (∃ reply, Reply.decode r.line = .ok reply ∧ reply.success = r.isSuccess ∧
        r.IsCarriedBy reply) ∧
      ∀ other : Response, other.IsInRange → other.bytes = r.bytes → other = r := by
  refine ⟨⟨_, r.bytes_eq, Utf8.lineFeed_not_mem_encode r.feed_not_mem_line, Utf8.decode?_encode _⟩,
    exists_isCarriedBy h, fun other hother hbytes => ?_⟩
  rw [bytes_eq, bytes_eq, List.append_cancel_right_eq] at hbytes
  have hline : other.line = r.line := by
    rw [← Option.some.injEq, ← Utf8.decode?_encode, ← Utf8.decode?_encode, hbytes]
  obtain ⟨reply, hreply, -, hr⟩ := exists_isCarriedBy h
  obtain ⟨reply', hreply', -, hother⟩ := exists_isCarriedBy hother
  rw [hline, hreply, Except.ok.injEq] at hreply'
  rw [← hreply'] at hother
  exact eq_of_isCarriedBy hother hr

/-- The last instant there is, within a leap second. -/
def lastInstant : Instant := ⟨lastSecond, 1999999999, by decide, by decide, by decide, by decide⟩

def lastReminder : Response :=
  .success (.reminderCreated "\"\n\x00é" minInt64 lastInstant)

theorem bytes_isCarriedBy_lastReminder :
    lastReminder.IsInRange ∧ (Response.success .ack).IsInRange ∧
      (∃ reply, Reply.decode lastReminder.line = .ok reply ∧
        reply.success = lastReminder.isSuccess ∧ lastReminder.IsCarriedBy reply) ∧
      (Response.success .ack).bytes ≠ lastReminder.bytes := by
  have hrange : lastReminder.IsInRange := (by decide : IsInt64 minInt64)
  obtain ⟨-, hreply, hunique⟩ := bytes_isCarriedBy lastReminder hrange
  exact ⟨hrange, trivial, hreply, fun h => absurd (hunique (.success .ack) trivial h) (by decide)⟩

end Response

end Daybook
