import Daybook.Error
import Daybook.Json.Basic

namespace Daybook

/-- What is wrong with a parameter. -/
inductive ParamError where
  | missing (name : String)
  | wrongType (name wanted : String)
  | invalid (name reason : String)
deriving DecidableEq, Repr

def ParamError.message : ParamError → String
  | .missing name => "missing required parameter '" ++ name ++ "'"
  | .wrongType name wanted => "parameter '" ++ name ++ "' must be " ++ wanted
  | .invalid name reason => "invalid value for parameter '" ++ name ++ "': " ++ reason

structure Params where
  members : List (String × Json)

namespace Params

def empty : Params := ⟨[]⟩

def get? (params : Params) (name : String) : Option Json :=
  match params.members.lookup name with
  | some .null => none
  | value => value

/-- A parameter that was given, or the error that it was not. -/
def require {α : Type} (name : String) : Except ParamError (Option α) → Except ParamError α
  | .ok (some a) => .ok a
  | .ok none => .error (.missing name)
  | .error e => .error e

def optionalText (params : Params) (name : String) : Except ParamError (Option String) :=
  match params.get? name with
  | none => .ok none
  | some (.str s) => .ok (some s)
  | some _ => .error (.wrongType name "a string")

def text (params : Params) (name : String) : Except ParamError String :=
  require name (params.optionalText name)

/-- An integer with a sign in 64 bits, if it was given. A number with a fraction or an exponent is
none, whatever its value. -/
def optionalInteger (params : Params) (name : String) : Except ParamError (Option Int) :=
  match params.get? name with
  | none => .ok none
  | some (.int v) =>
      if minInt64 ≤ v ∧ v ≤ maxInt64 then .ok (some v) else .error (.wrongType name "an integer")
  | some _ => .error (.wrongType name "an integer")

def integer (params : Params) (name : String) : Except ParamError Int :=
  require name (params.optionalInteger name)

/-- An integer that is not negative, if it was given. -/
def optionalCount (params : Params) (name : String) : Except ParamError (Option Nat) := do
  match ← params.optionalInteger name with
  | none => return none
  | some v =>
      if v < 0 then .error (.invalid name (Error.numberText v ++ " is negative"))
      else return some v.toNat

def optionalParsed {α : Type} (params : Params) (parse : String → Except Error α)
    (name : String) : Except ParamError (Option α) := do
  match ← params.optionalText name with
  | none => return none
  | some s =>
      match parse s with
      | .ok a => return some a
      | .error e => .error (.invalid name e.message)

end Params

end Daybook
