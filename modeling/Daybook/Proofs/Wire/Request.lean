import Daybook.Proofs.Json.Canonical
import Daybook.Proofs.Text.Encoding
import Daybook.Wire.Request

namespace Daybook.Request

open Json Members

variable {ms others : List (String × Json)}

/-- The line of an object, its members in the order in which they are given. -/
def objectLine (ms : List (String × Json)) : List UInt8 := Utf8.encode (Json.obj ms).render

theorem decode_objectLine (h : Fits maxDepth (.obj ms)) :
    decode (objectLine ms) = ofMembers (ofList (ms.map fun m => (m.1, m.2.canonical))) := by
  rw [decode, objectLine, Utf8.decode?_encode]
  simp only [parse_render h, canonical]

theorem lookup_canonical (name : String) (ms : List (String × Json)) :
    (ofList (ms.map fun m => (m.1, m.2.canonical))).lookup name =
      (last? name ms).map canonical := by
  rw [lookup_ofList, last?_map]

/-- What a request says is decided by the last of its methods and the last of its parameters. -/
theorem decode_congr_last (h : Fits maxDepth (.obj ms)) (hothers : Fits maxDepth (.obj others))
    (hmethod : last? "method" others = last? "method" ms)
    (hparams : last? "params" others = last? "params" ms) :
    decode (objectLine others) = decode (objectLine ms) := by
  rw [decode_objectLine h, decode_objectLine hothers, ofMembers, ofMembers]
  simp only [lookup_canonical, hmethod, hparams]

section Cases

variable (h : Fits maxDepth (.obj ms)) {method : String}
include h

theorem decode_of_no_method (hmethod : last? "method" ms = none) :
    decode (objectLine ms) = .error .missingMethod := by
  rw [decode_objectLine h, ofMembers, lookup_canonical, hmethod]
  rfl

theorem decode_of_method_not_text {j : Json} (hmethod : last? "method" ms = some j)
    (hj : ∀ s, j ≠ .str s) : decode (objectLine ms) = .error .methodNotText := by
  rw [decode_objectLine h, ofMembers, lookup_canonical, hmethod, Option.map_some]
  cases j with
  | str s => exact absurd rfl (hj s)
  | null | bool | int | float | arr | obj =>
      rw [canonical.eq_def]

variable (hmethod : last? "method" ms = some (.str method))
include hmethod

theorem decode_of_method : decode (objectLine ms) =
    match (last? "params" ms).map canonical with
    | none | some .null => .ok ⟨method, .empty⟩
    | some (.obj params) => .ok ⟨method, ⟨params⟩⟩
    | some _ => .error .paramsNotObject := by
  rewrite [decode_objectLine h, ofMembers, lookup_canonical, lookup_canonical, hmethod,
    Option.map_some, canonical]
  rfl

theorem decode_of_no_params (hparams : last? "params" ms = none ∨ last? "params" ms = some .null) :
    decode (objectLine ms) = .ok ⟨method, .empty⟩ := by
  rw [decode_of_method h hmethod]
  rcases hparams with hparams | hparams <;> rw [hparams]
  · rfl
  · rw [Option.map_some, canonical]

theorem decode_of_params {given : List (String × Json)}
    (hparams : last? "params" ms = some (.obj given)) :
    ∃ params, decode (objectLine ms) = .ok ⟨method, ⟨params⟩⟩ ∧
      ∀ read, ReadsBack (.obj given) read ↔ read = .obj params := by
  have hread : ∀ read, ReadsBack (.obj given) read ↔ read = canonical (.obj given) :=
    fun _ => readsBack_iff
  rw [decode_of_method h hmethod, hparams, Option.map_some]
  rw [canonical] at hread ⊢
  exact ⟨_, rfl, hread⟩

theorem decode_of_params_not_object {j : Json} (hparams : last? "params" ms = some j)
    (hnull : j ≠ .null) (hobject : ∀ given, j ≠ .obj given) :
    decode (objectLine ms) = .error .paramsNotObject := by
  rw [decode_of_method h hmethod, hparams, Option.map_some]
  cases j with
  | null => exact absurd rfl hnull
  | obj given => exact absurd rfl (hobject given)
  | bool | int | float | str | arr => rw [canonical.eq_def]

end Cases

/-- A request is read back from the line of its object. -/
theorem decode_lastMembers (ms : List (String × Json)) (h : Fits maxDepth (.obj ms)) :
    (last? "method" ms = none → decode (objectLine ms) = .error .missingMethod) ∧
      (∀ j, last? "method" ms = some j → (∀ s, j ≠ .str s) →
        decode (objectLine ms) = .error .methodNotText) ∧
      (∀ method, last? "method" ms = some (.str method) →
        (last? "params" ms = none ∨ last? "params" ms = some .null →
          decode (objectLine ms) = .ok ⟨method, .empty⟩) ∧
        (∀ given, last? "params" ms = some (.obj given) →
          ∃ params, decode (objectLine ms) = .ok ⟨method, ⟨params⟩⟩ ∧
            ∀ read, ReadsBack (.obj given) read ↔ read = .obj params) ∧
        ∀ j, last? "params" ms = some j → j ≠ .null → (∀ given, j ≠ .obj given) →
          decode (objectLine ms) = .error .paramsNotObject) ∧
      ∀ others, Fits maxDepth (.obj others) → last? "method" others = last? "method" ms →
        last? "params" others = last? "params" ms →
          decode (objectLine others) = decode (objectLine ms) :=
  ⟨decode_of_no_method h, fun _ => decode_of_method_not_text h,
    fun _ hmethod => ⟨decode_of_no_params h hmethod, fun _ => decode_of_params h hmethod,
      fun _ => decode_of_params_not_object h hmethod⟩,
    fun _ => decode_congr_last h⟩

/-- An object that names its method, its parameters and one of these twice. -/
def repeatedNames : List (String × Json) :=
  [("method", .int maxNat64), ("params", .arr []), ("method", .str "take\x00\"é"),
    ("id", .null), ("params", .obj [("b", .int minInt64), ("a", .str ""), ("b", .obj [])])]

theorem decode_lastMembers_repeatedNames :
    Fits maxDepth (.obj repeatedNames) ∧
      last? "method" repeatedNames = some (.str "take\x00\"é") ∧
      last? "params" repeatedNames =
        some (.obj [("b", .int minInt64), ("a", .str ""), ("b", .obj [])]) ∧
      ∃ params, decode (objectLine repeatedNames) = .ok ⟨"take\x00\"é", ⟨params⟩⟩ ∧
        ReadsBack (.obj [("b", .int minInt64), ("a", .str ""), ("b", .obj [])]) (.obj params) := by
  have hparams : ∀ m ∈ [("b", .int minInt64), ("a", .str ""), ("b", .obj [])], Fits 125 m.2 := by
    simp only [List.forall_mem_cons]
    exact ⟨.int (by decide) (by decide), .str _, .obj nofun, nofun⟩
  have hfits : Fits maxDepth (.obj repeatedNames) := by
    refine .obj ?_
    simp only [repeatedNames, List.forall_mem_cons]
    exact ⟨.int (by decide) (by decide), .arr nofun, .str _, .null, .obj hparams, nofun⟩
  obtain ⟨-, -, hnamed, -⟩ := decode_lastMembers repeatedNames hfits
  obtain ⟨params, hdecode, hread⟩ := (hnamed "take\x00\"é" rfl).2.1 _ rfl
  exact ⟨hfits, rfl, rfl, params, hdecode, (hread _).mpr rfl⟩

end Daybook.Request
