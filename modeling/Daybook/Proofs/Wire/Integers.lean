import Daybook.Daemon.Handler
import Daybook.Proofs.Json.Spelling
import Daybook.Proofs.Wire.Reply
import Daybook.Wire.Request

namespace Daybook

open Json

namespace Json.Numeral

variable {n : Numeral}

/-- The numeral denotes an integer of 64 bits with a sign, and not by a fraction or an exponent. -/
def IsExact (n : Numeral) : Prop := n.IsInteger ∧ IsInt64 n.value

theorem IsReadAs.eq_int {j : Json} (h : n.IsReadAs j) (hexact : n.IsExact) : j = .int n.value := by
  cases h with
  | integer => rfl
  | float hbeyond =>
      rcases hbeyond hexact.1 with hlow | hhigh
      · exact absurd hexact.2.1 (Int.not_le.mpr hlow)
      · exact absurd (Int.le_trans hexact.2.2 (by decide)) (Int.not_le.mpr hhigh)

theorem IsReadAs.isExact {v : Int} (h : n.IsReadAs (.int v)) (hv : IsInt64 v) :
    n.IsExact ∧ n.value = v := by
  cases h with
  | integer hinteger => exact ⟨⟨hinteger, hv⟩, rfl⟩

def ofInt (v : Int) : Numeral :=
  ⟨decide (v < 0), Digits.decimal v.natAbs, [], [], isWhole_decimal _, .inl rfl, .inl rfl⟩

theorem text_ofInt (v : Int) : (ofInt v).text = Digits.integer v := by
  simp [text, unsigned, ofInt, Digits.integer]

theorem value_ofInt (v : Int) : (ofInt v).value = v := by
  simp only [value, ofInt, decide_eq_true_eq, Digits.value_decimal]
  split <;> omega

theorem isInteger_ofInt (v : Int) : (ofInt v).IsInteger := by
  refine ⟨rfl, rfl, fun htext => ?_⟩
  rw [text_ofInt, Digits.integer] at htext
  split at htext
  · have hzero := Digits.value_decimal v.natAbs
    rw [(List.cons.inj htext).2] at hzero
    have : Digits.value ['0'] = 0 := rfl
    omega
  · have hdigit : ∀ c ∈ Digits.decimal v.natAbs, c.isDigit := fun _ => Digits.isDigit_of_mem_decimal
    rw [htext] at hdigit
    exact absurd (hdigit '-' List.mem_cons_self) (by decide)

theorem eq_ofInt {v : Int} (h : n.text = Digits.integer v) : n = ofInt v := by
  have hends : ∀ n : Numeral, EndsAfter n.fraction n.exponent [] := fun _ =>
    ⟨nofun, fun _ => nofun, fun _ _ => nofun⟩
  refine (unique (hends n) (hends (ofInt v)) ?_).1
  rw [h, text_ofInt]

/-- A numeral without fraction and exponent is written as its value, unless it is a negative zero. -/
theorem text_of_isInteger (h : n.IsInteger) : n.text = Digits.integer n.value := by
  have hunsigned := unsigned_of_whole h.1 h.2.1
  cases hnegative : n.negative with
  | false =>
      rw [text_of_not_negative hnegative, value_of_not_negative hnegative, hunsigned,
        Digits.integer, if_neg (by omega), Int.natAbs_natCast, decimal_value n.isWhole]
  | true =>
      have htext := text_of_negative hnegative
      have hne : Digits.value n.whole ≠ 0 := fun hzero => h.2.2 (by
        rw [htext, hunsigned, eq_zero_of_value n.isWhole hzero])
      rw [htext, value_of_negative hnegative, hunsigned, Digits.integer, if_pos (by omega),
        Int.natAbs_neg, Int.natAbs_natCast, decimal_value n.isWhole]

theorem isExact_of_text {v : Int} (h : n.text = Digits.integer v) (hv : IsInt64 v) :
    n.IsExact ∧ n.value = v := by
  obtain rfl := eq_ofInt h
  rw [IsExact, value_ofInt]
  exact ⟨⟨isInteger_ofInt v, hv⟩, rfl⟩

end Json.Numeral

namespace Params

variable {p : Params} {name : String} {n : Numeral} {j : Json}

section Exact

variable (hlookup : p.members.lookup name = some j) (hread : n.IsReadAs j)
include hlookup hread

theorem optionalInteger_of_isExact (h : n.IsExact) :
    p.optionalInteger name = .ok (some n.value) := by
  rw [optionalInteger, get?, hlookup, hread.eq_int h]
  exact if_pos h.2

theorem optionalInteger_of_not_isExact (h : ¬n.IsExact) :
    p.optionalInteger name = .error (.wrongType name "an integer") := by
  rw [optionalInteger, get?, hlookup]
  cases hread with
  | integer hinteger => exact if_neg fun hv => h ⟨hinteger, hv⟩
  | float => rfl

theorem optionalInteger_eq_ok_iff (v : Int) :
    p.optionalInteger name = .ok (some v) ↔ n.IsExact ∧ v = n.value := by
  by_cases h : n.IsExact
  · rw [optionalInteger_of_isExact hlookup hread h]
    simp [h, eq_comm]
  · rw [optionalInteger_of_not_isExact hlookup hread h]
    simp [h]

theorem integer_eq_ok_iff (v : Int) : p.integer name = .ok v ↔ n.IsExact ∧ v = n.value := by
  rw [← optionalInteger_eq_ok_iff hlookup hread, integer]
  rcases p.optionalInteger name with e | _ | w <;> simp [require]

theorem optionalCount_of_isExact (h : n.IsExact) :
    p.optionalCount name =
      if n.value < 0 then .error (.invalid name (Error.numberText n.value ++ " is negative"))
      else .ok (some n.value.toNat) := by
  rw [optionalCount, optionalInteger_of_isExact hlookup hread h]
  rfl

theorem optionalCount_of_not_isExact (h : ¬n.IsExact) :
    p.optionalCount name = .error (.wrongType name "an integer") := by
  rw [optionalCount, optionalInteger_of_not_isExact hlookup hread h]
  rfl

theorem optionalCount_eq_ok_iff (c : Nat) :
    p.optionalCount name = .ok (some c) ↔ n.IsExact ∧ (c : Int) = n.value := by
  by_cases h : n.IsExact
  · rw [optionalCount_of_isExact hlookup hread h]
    split <;> simp [h] <;> omega
  · rw [optionalCount_of_not_isExact hlookup hread h]
    simp [h]

theorem optionalCount_of_neg (h : n.IsExact) (hneg : n.value < 0) : p.optionalCount name =
    .error (.invalid name (Error.numberText n.value ++ " is negative")) := by
  rw [optionalCount_of_isExact hlookup hread h, if_pos hneg]

theorem refuses_of_not_isExact (h : ¬n.IsExact) :
    p.optionalInteger name = .error (.wrongType name "an integer") ∧
      p.integer name = .error (.wrongType name "an integer") ∧
      p.optionalCount name = .error (.wrongType name "an integer") := by
  have hrefused := optionalInteger_of_not_isExact hlookup hread h
  refine ⟨hrefused, ?_, optionalCount_of_not_isExact hlookup hread h⟩
  rw [integer, hrefused]
  rfl

end Exact

end Params

namespace Request

open Members

variable {line : List UInt8} {r : Request} {ms others : List (String × Written)} {name : String}

/-- A line spells an object that has these members, and nothing after it. -/
def IsSpelled (ms : List (String × Written)) (line : List UInt8) : Prop :=
  ∃ text rest, Utf8.decode? line = some text ∧ Spells (.value (.obj ms)) text rest ∧
    skipGap rest = []

/-- A line gives a numeral as the value of a parameter: the last of its parameters are an object, and
in this the last of the values under the name is the numeral. -/
def Gives (line : List UInt8) (name : String) (n : Numeral) : Prop :=
  ∃ ms given, IsSpelled ms line ∧ last? "params" ms = some (.obj given) ∧
    last? name given = some (.number n)

theorem IsSpelled.unique (h : IsSpelled ms line) (hothers : IsSpelled others line) :
    ms = others := by
  obtain ⟨text, rest, htext, hspells, -⟩ := h
  obtain ⟨text', rest', htext', hspells', -⟩ := hothers
  obtain rfl := Option.some.inj (htext.symm.trans htext')
  obtain ⟨heq, -⟩ := hspells.isOnly (.obj others) rest' hspells'
  exact Written.obj.inj heq

theorem exists_isSpelled (h : decode line = .ok r) :
    ∃ ms read, IsSpelled ms line ∧ Written.Means (.obj ms) (.obj read) ∧
      ofMembers read = .ok r := by
  rw [decode] at h
  split at h
  · cases h
  · rename_i text htext
    split at h
    · cases h
    · rename_i read hparse
      obtain ⟨⟨j, rest⟩, hvalue, hfinish⟩ := bind_eq_ok_iff.mp hparse
      obtain ⟨rfl, hrest⟩ := finish_eq_ok hfinish
      obtain ⟨w, hspells, hmeans⟩ := isFaithful_value maxDepth hvalue
      cases hmeans with
      | number hnumber => cases hnumber
      | @obj ms _ sorted hmembers =>
          exact ⟨ms, read, ⟨text, rest, htext, hspells, hrest⟩, .obj sorted hmembers, h⟩
    · cases h

theorem params_of_ofMembers {read : List (String × Json)} (h : ofMembers read = .ok r) :
    read.lookup "params" = some (.obj r.params.members) ∨
      (r.params.members = [] ∧ ∀ given, read.lookup "params" ≠ some (.obj given)) := by
  rw [ofMembers] at h
  split at h
  · cases h
  · split at h
    · rename_i hparams
      cases h
      exact .inr ⟨rfl, fun given hgiven => absurd (hparams.symm.trans hgiven) nofun⟩
    · rename_i hparams
      cases h
      exact .inr ⟨rfl, fun given hgiven => absurd (hparams.symm.trans hgiven) nofun⟩
    · rename_i hparams
      cases h
      exact .inl hparams
    · cases h
  · cases h

theorem exists_lookup_of_gives (h : decode line = .ok r) {n : Numeral} (hn : Gives line name n) :
    ∃ j, r.params.members.lookup name = some j ∧ n.IsReadAs j := by
  obtain ⟨ms, given, hspelled, hparams, hname⟩ := hn
  obtain ⟨others, read, hothers, hmeans, hread⟩ := exists_isSpelled h
  -- the line spells one object only, so that the numeral stands in the one that was read
  obtain rfl := hspelled.unique hothers
  cases hmeans with
  | obj _ hmembers =>
      obtain ⟨j, hlookup, hobject⟩ := exists_of_rel_some (hparams ▸ hmembers "params")
      cases hobject with
      | obj _ hgiven =>
          obtain ⟨j, hj, hvalue⟩ := exists_of_rel_some (hname ▸ hgiven name)
          cases hvalue with
          | number hnumber =>
              rcases params_of_ofMembers hread with hparams | ⟨-, hnone⟩
              · cases hlookup.symm.trans hparams
                exact ⟨j, hj, hnumber⟩
              · exact absurd hlookup (hnone _)

theorem exists_gives_of_lookup (h : decode line = .ok r) {j : Json}
    (hj : (∃ v, j = .int v) ∨ IsFloat j) (hlookup : r.params.members.lookup name = some j) :
    ∃ n : Numeral, Gives line name n ∧ n.IsReadAs j := by
  obtain ⟨ms, read, hspelled, hmeans, hread⟩ := exists_isSpelled h
  rcases params_of_ofMembers hread with hparams | ⟨hnil, -⟩
  · cases hmeans with
    | obj _ hmembers =>
        obtain ⟨w, hw, hobject⟩ := exists_of_rel_some_right (hparams ▸ hmembers "params")
        cases hobject with
        | number hnumber => cases hnumber
        | obj _ hgiven =>
            obtain ⟨w', hname, hvalue⟩ := exists_of_rel_some_right (hlookup ▸ hgiven name)
            cases hvalue with
            | number hnumber => exact ⟨_, ⟨ms, _, hspelled, hw, hname⟩, hnumber⟩
            | null | bool | str | arr | obj => rcases hj with ⟨_, ⟨⟩⟩ | ⟨_, ⟨⟩⟩
  · rw [hnil] at hlookup
    cases hlookup

/-- An integer parameter reaches the store as it is, in every method that looks at its name. -/
structure Reaches (r : Request) (name : String) (v : Int) : Prop where
  completeTask : r.method = "complete_task" → name = "task_id" →
    ∀ (daemon : Daemon) (now : Instant) (disk : Disk), daemon.invoke now r.method r.params disk =
      Outcome.ofStore (fun _ => .ack) (daemon.store.completeTask v now disk)
  cancelReminder : r.method = "cancel_reminder" → name = "reminder_id" →
    ∀ (daemon : Daemon) (now : Instant) (disk : Disk), daemon.invoke now r.method r.params disk =
      Outcome.ofStore (fun _ => .ack) (daemon.store.cancelReminder v disk)
  createReminder : r.method = "create_reminder" → name = "minutes" →
    ∀ title, r.params.text "title" = .ok title →
      ∀ (daemon : Daemon) (now : Instant) (disk : Disk), daemon.invoke now r.method r.params disk =
        Outcome.ofStore
          (fun made =>
            .reminderCreated (Daemon.reminderMessage made.title v) made.id made.triggerTime)
          (daemon.store.createReminder title v now disk)

theorem reaches_of_optionalInteger {v : Int} (h : r.params.optionalInteger name = .ok (some v)) :
    r.Reaches name v := by
  have hinteger : r.params.integer name = .ok v := by rw [Params.integer, h]; rfl
  refine ⟨fun hmethod hname daemon now disk => ?_, fun hmethod hname daemon now disk => ?_,
    fun hmethod hname title htitle daemon now disk => ?_⟩
  · subst hname
    rw [hmethod]
    show daemon.perform now .completeTask r.params disk = _
    rw [Daemon.perform, hinteger]
    rfl
  · subst hname
    rw [hmethod]
    show daemon.perform now .cancelReminder r.params disk = _
    rw [Daemon.perform, hinteger]
    rfl
  · subst hname
    have hterms : Daemon.reminderTerms daemon.config r.params = .ok (title, v) := by
      rw [Daemon.reminderTerms, htitle, h]
      rfl
    rw [hmethod]
    show daemon.perform now .createReminder r.params disk = _
    rw [Daemon.perform, hterms]
    rfl

/-- A numeral that is the value of a parameter is the integer that it denotes, exactly, or it is
none; and an integer that is written with its digits reaches the store unchanged. -/
theorem decode_exactIntegers (line : List UInt8) (r : Request) (h : decode line = .ok r) :
    (∃! ms, IsSpelled ms line) ∧ ∀ name n, Gives line name n →
      (∀ v, r.params.optionalInteger name = .ok (some v) ↔ n.IsExact ∧ v = n.value) ∧
      (∀ v, r.params.integer name = .ok v ↔ n.IsExact ∧ v = n.value) ∧
      (∀ c : Nat, r.params.optionalCount name = .ok (some c) ↔ n.IsExact ∧ (c : Int) = n.value) ∧
      (n.IsExact → n.value < 0 → r.params.optionalCount name =
        .error (.invalid name (Error.numberText n.value ++ " is negative"))) ∧
      (¬n.IsExact → r.params.optionalInteger name = .error (.wrongType name "an integer") ∧
        r.params.integer name = .error (.wrongType name "an integer") ∧
        r.params.optionalCount name = .error (.wrongType name "an integer")) ∧
      ∀ v, IsInt64 v → n.text = Digits.integer v →
        r.params.optionalInteger name = .ok (some v) ∧ r.Reaches name v := by
  obtain ⟨ms, _, hspelled, -, -⟩ := exists_isSpelled h
  refine ⟨⟨ms, hspelled, fun others hothers => hothers.unique hspelled⟩, fun name n hn => ?_⟩
  obtain ⟨j, hlookup, hread⟩ := exists_lookup_of_gives h hn
  refine ⟨Params.optionalInteger_eq_ok_iff hlookup hread, Params.integer_eq_ok_iff hlookup hread,
    Params.optionalCount_eq_ok_iff hlookup hread, Params.optionalCount_of_neg hlookup hread,
    Params.refuses_of_not_isExact hlookup hread, fun v hv htext => ?_⟩
  obtain ⟨hexact, hvalue⟩ := Numeral.isExact_of_text htext hv
  have hinteger : r.params.optionalInteger name = .ok (some v) :=
    (Params.optionalInteger_eq_ok_iff hlookup hread v).mpr ⟨hexact, hvalue.symm⟩
  exact ⟨hinteger, reaches_of_optionalInteger hinteger⟩

/-- A request that gives its parameters and its identifier twice, the last being the lowest. -/
def lowestText : List Char :=
  "\x7b\"params\":[], \"method\":\"complete_task\",\"params\":\x7b\"task_id\":[],".toList ++
    "\"task_id\": -9223372036854775808 ,\"limit\":-0\x7d\x7d".toList

def lowestRequest : Request :=
  ⟨"complete_task", ⟨[("limit", .float 9223372036854775808), ("task_id", .int minInt64)]⟩⟩

set_option maxRecDepth 2000 in
theorem decode_lowestText : decode (Utf8.encode lowestText) = .ok lowestRequest := by rfl

theorem decode_exactIntegers_lowestText :
    decode (Utf8.encode lowestText) = .ok lowestRequest ∧
      ∃ n m, Gives (Utf8.encode lowestText) "task_id" n ∧ n.text = Digits.integer minInt64 ∧
        lowestRequest.params.integer "task_id" = .ok minInt64 ∧
        lowestRequest.Reaches "task_id" minInt64 ∧
        Gives (Utf8.encode lowestText) "limit" m ∧ ¬m.IsExact ∧
        lowestRequest.params.optionalCount "limit" =
          .error (.wrongType "limit" "an integer") := by
  have hint : IsInt64 minInt64 := by decide
  have hid : lowestRequest.params.members.lookup "task_id" = some (.int minInt64) := rfl
  have hlimit : lowestRequest.params.members.lookup "limit" =
      some (.float 9223372036854775808) := rfl
  obtain ⟨n, hn, hread⟩ := exists_gives_of_lookup decode_lowestText (.inl ⟨minInt64, rfl⟩) hid
  obtain ⟨hexact, hvalue⟩ := hread.isExact hint
  have htext : n.text = Digits.integer minInt64 := hvalue ▸ Numeral.text_of_isInteger hexact.1
  obtain ⟨m, hm, hfloat⟩ := exists_gives_of_lookup decode_lowestText (.inr ⟨_, rfl⟩) hlimit
  have hinexact : ¬m.IsExact := fun h => absurd (hfloat.eq_int h) nofun
  obtain ⟨-, hgiven⟩ := decode_exactIntegers _ _ decode_lowestText
  obtain ⟨-, hinteger, -, -, -, hstored⟩ := hgiven "task_id" n hn
  obtain ⟨-, -, -, -, hrefused, -⟩ := hgiven "limit" m hm
  exact ⟨decode_lowestText, n, m, hn, htext, (hinteger minInt64).mpr ⟨hexact, hvalue.symm⟩,
    (hstored minInt64 hint htext).2, hm, hinexact, (hrefused hinexact).2.2⟩

end Request

end Daybook
