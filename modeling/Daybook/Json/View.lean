import Daybook.Json.Basic

namespace Daybook.Json

def asInteger? : Json → Option Int
  | .int v => if minInt64 ≤ v ∧ v ≤ maxInt64 then some v else none
  | _ => none

def asCount? : Json → Option Nat
  | .int v => if 0 ≤ v ∧ v ≤ maxNat64 then some v.toNat else none
  | _ => none

def asText? : Json → Option String
  | .str s => some s
  | _ => none

def asBool? : Json → Option Bool
  | .bool b => some b
  | _ => none

/-- A value that goes by a name: the name, or an object with null under it. -/
def asNamed? {α : Type} (ofName? : String → Option α) : Json → Option α
  | .str s => ofName? s
  | .obj [(name, .null)] => ofName? name
  | _ => none

/-- The values of a record, in the order of their names here: from an object by name, or from a list by
place. -/
def asRecord? (names : List String) : Json → Option (List Json)
  | .obj members => names.mapM fun name => members.lookup name
  | .arr items => if items.length = names.length then some items else none
  | _ => none

/-- A list of values that are all read in one way. -/
def asList? {α : Type} (item? : Json → Option α) : Json → Option (List α)
  | .arr items => items.mapM item?
  | _ => none

end Daybook.Json
