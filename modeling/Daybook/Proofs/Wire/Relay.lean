import Daybook.Proofs.Json.Stability
import Daybook.Proofs.Wire.Reply

namespace Daybook.Reply

open Json Payload

variable {draft after : Draft} {text rest : List Char} {reply : Reply}

section Reading

/-- The fields have names of their own, and values that were read. -/
structure Draft.IsSound (draft : Draft) : Prop where
  names : ∀ m ∈ draft.fields, m.1 ∉ reservedNames
  read : AllRead (maxDepth - 1) draft.fields

theorem Draft.isSound_of_member {name : String} (h : draft.IsSound)
    (hmember : member name draft text = .ok (after, rest)) : after.IsSound := by
  unfold member at hmember
  split at hmember
  · obtain ⟨_, -, ⟨⟩⟩ := map_eq_ok_iff.mp hmember
    exact ⟨h.names, h.read⟩
  · obtain ⟨_, -, ⟨⟩⟩ := map_eq_ok_iff.mp hmember
    exact ⟨h.names, h.read⟩
  · obtain ⟨_, -, ⟨⟩⟩ := map_eq_ok_iff.mp hmember
    exact ⟨h.names, h.read⟩
  · rename_i hsuccess herror hkind
    obtain ⟨⟨fields, _⟩, henter, ⟨⟩⟩ := map_eq_ok_iff.mp hmember
    have hread := allRead_of_enter h.read henter
    obtain ⟨_, j, -, -, rfl⟩ := enter_eq_ok henter
    refine ⟨List.forall_mem_cons.mpr ⟨?_, h.names⟩, hread⟩
    simp only [reservedNames, List.mem_cons, List.not_mem_nil, or_false, not_or]
    exact ⟨hsuccess, herror, hkind⟩

theorem wrongKind_ne_ok {α : Type} {wanted : String} {a : α} :
    wrongKind wanted text ≠ .ok a := by
  have hrefuse : ∀ {β : Type} {read : Except Fault β} {next : β → Except Fault α},
      (∀ b, next b ≠ .ok a) → read >>= next ≠ .ok a := by
    intro β read next hnext h
    obtain ⟨b, -, hb⟩ := bind_eq_ok_iff.mp h
    exact hnext b hb
  unfold wrongKind
  dsimp only
  split
  · nofun
  · exact hrefuse nofun
  · exact hrefuse nofun
  · exact hrefuse nofun
  · refine hrefuse fun read => ?_
    split <;> nofun
  · exact hrefuse nofun
  · nofun
  · nofun
  · split
    · refine hrefuse fun read => ?_
      split <;> nofun
    · nofun

theorem exists_draft_of_decode (h : decode text = .ok reply) :
    ∃ draft : Draft, draft.IsSound ∧ reply.fields = Members.ofReversed draft.fields := by
  rw [decode] at h
  split at h
  · obtain ⟨⟨read, later⟩, hbody, hfinish⟩ := bind_eq_ok_iff.mp h
    rw [body, bind_eq_ok_iff] at hbody
    obtain ⟨⟨draft, _⟩, hmembers, hbody⟩ := hbody
    have hsound : draft.IsSound := (members_eq_ok hmembers).keeps Draft.isSound_of_member
      ⟨fun _ hm => absurd hm List.not_mem_nil, fun _ hm => absurd hm List.not_mem_nil⟩
    have hread : read.fields = Members.ofReversed draft.fields := by
      dsimp only at hbody
      split at hbody
      · cases hbody
      · cases hbody
        rfl
    exact ⟨draft, hsound, (finish_eq_ok hfinish).1 ▸ hread⟩
  · exact absurd h wrongKind_ne_ok

end Reading

/-- A reply that can be sent on as it is. -/
structure IsSendable (reply : Reply) : Prop where
  sorted : Members.IsSorted reply.fields
  names : ∀ m ∈ reply.fields, m.1 ∉ reservedNames
  stable : ∀ m ∈ reply.fields, IsStable (maxDepth - 1) m.2

theorem mem_draft_of_mem_fields {m : String × Json} (hm : m ∈ Members.ofReversed draft.fields) :
    m ∈ draft.fields := by
  rw [Members.ofReversed_eq] at hm
  exact List.mem_reverse.mp (Members.mem_ofList hm)

theorem not_mem_reservedNames_of_decode (h : decode text = .ok reply) :
    ∀ m ∈ reply.fields, m.1 ∉ reservedNames := by
  obtain ⟨draft, hsound, hfields⟩ := exists_draft_of_decode h
  intro m hm
  exact hsound.names m (mem_draft_of_mem_fields (hfields ▸ hm))

theorem isSendable_of_decode (h : decode text = .ok reply)
    (hfloat : ∀ m ∈ reply.fields, HasNoFloat m.2) : reply.IsSendable := by
  obtain ⟨draft, hsound, hfields⟩ := exists_draft_of_decode h
  refine ⟨?_, not_mem_reservedNames_of_decode h, fun m hm => ?_⟩
  · rw [hfields, Members.ofReversed_eq]
    exact Members.isSorted_ofList _
  · obtain ⟨_, _, hread⟩ := hsound.read m (mem_draft_of_mem_fields (hfields ▸ hm))
    exact isStable_of_value hread (hfloat m hm)

section Sending

theorem reads_error (h : draft.error = none) (e : Option String) :
    Reads member draft (e.map fun e => ("error", Json.str e)).toList
      { draft with error := e.map some } := by
  cases e with
  | none =>
      obtain ⟨_, _, _, _⟩ := draft
      cases h
      exact .nil
  | some e => exact .cons (fun _ _ => member_error h e) .nil

theorem reads_kind (h : draft.kind = none) (k : Option FailureKind) :
    Reads member draft (k.map fun k => ("kind", Json.str k.name)).toList
      { draft with kind := k.map some } := by
  cases k with
  | none =>
      obtain ⟨_, _, _, _⟩ := draft
      cases h
      exact .nil
  | some k => exact .cons (fun _ _ => member_kind h k) .nil

theorem Reads.append {ms others : List (String × Json)} {s next last : Draft}
    (h : Reads member s ms next) (hothers : Reads member next others last) :
    Reads member s (ms ++ others) last := by
  induction h with
  | nil => exact hothers
  | cons h _ ih => exact .cons h (ih hothers)

theorem join_map_some {α : Type} (a : Option α) : (a.map some).join = a := by
  cases a <;> rfl

theorem decode_line_of_isSendable (h : reply.IsSendable) : decode reply.line = .ok reply := by
  obtain ⟨success, error, kind, fields⟩ := reply
  have hreads : Reads member ⟨none, none, none, []⟩ (("success", .bool success) ::
      ((error.map fun e => ("error", Json.str e)).toList ++
        (kind.map fun k => ("kind", Json.str k.name)).toList ++ fields))
      ⟨some success, error.map some, kind.map some, fields.reverse ++ []⟩ := by
    refine .cons (fun rest _ => member_success rfl success) ?_
    exact Reads.append (Reads.append (reads_error rfl error) (reads_kind rfl kind))
      (reads_fields h.names h.stable _)
  have hdecode := decode_render_obj hreads rfl
  rw [List.append_nil, Members.ofReversed_eq, List.reverse_reverse,
    Members.ofList_of_pairwise h.sorted, join_map_some, join_map_some] at hdecode
  exact hdecode

end Sending

/-- A reply that was read has no fields with the names of the members that say how the request ended,
and without binary64 numbers in it, it is read from its own line again, which is then its line for
good. -/
theorem decode_line_of_decode (text : List Char) (reply : Reply) (h : decode text = .ok reply) :
    (∀ m ∈ reply.fields, m.1 ∉ reservedNames) ∧
      ((∀ m ∈ reply.fields, HasNoFloat m.2) →
        ∃ again, decode reply.line = .ok again ∧ again = reply ∧ again.line = reply.line) :=
  ⟨not_mem_reservedNames_of_decode h, fun hfloat =>
    ⟨reply, decode_line_of_isSendable (isSendable_of_decode h hfloat), rfl, rfl⟩⟩

/-- A reply whose kind is an object and whose fields are out of order and repeated. -/
def looseText : List Char :=
  ("\x7b\"x\":1, \"kind\":\x7b\"not_found\":null\x7d,\"success\":false,\"error\":null," ++
    "\"x\":\x7b\"b\":0,\"a\":null,\"b\":[true,-9223372036854775808]\x7d," ++
    "\"id\":18446744073709551615\x7d").toList

def looseReply : Reply :=
  ⟨false, none, some .notFound, [("id", .int maxNat64),
    ("x", .obj [("a", .null), ("b", .arr [.bool true, .int minInt64])])]⟩

set_option maxRecDepth 2000 in
theorem decode_looseText : decode looseText = .ok looseReply := by rfl

theorem decode_line_of_decode_looseText :
    decode looseText = .ok looseReply ∧ (∀ m ∈ looseReply.fields, HasNoFloat m.2) ∧
      ∃ again, decode looseReply.line = .ok again ∧ again = looseReply ∧
        again.line = looseReply.line := by
  have hlist : ∀ item ∈ [Json.bool true, .int minInt64], HasNoFloat item := by
    simp only [List.forall_mem_cons]
    exact ⟨.bool true, .int minInt64, nofun⟩
  have hobject : ∀ m ∈ [("a", Json.null), ("b", .arr [.bool true, .int minInt64])],
      HasNoFloat m.2 := by
    simp only [List.forall_mem_cons]
    exact ⟨.null, .arr hlist, nofun⟩
  have hfloat : ∀ m ∈ looseReply.fields, HasNoFloat m.2 := by
    simp only [looseReply, List.forall_mem_cons]
    exact ⟨.int _, .obj hobject, nofun⟩
  exact ⟨decode_looseText, hfloat,
    (decode_line_of_decode looseText looseReply decode_looseText).2 hfloat⟩

end Daybook.Reply
