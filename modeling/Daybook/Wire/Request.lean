import Daybook.Json.Parser
import Daybook.Wire.Params

namespace Daybook

inductive DecodeError where
  | notText
  | notJson (complaint : Json.Complaint)
  | notObject
  | missingMethod
  | methodNotText
  | paramsNotObject
  | tooLong (length limit : Nat)
deriving DecidableEq, Repr

def DecodeError.message : DecodeError → String
  | .notText => "request is not valid UTF-8"
  | .notJson complaint => "invalid JSON: " ++ complaint.message
  | .notObject => "request must be a JSON object"
  | .missingMethod => "request is missing the 'method' field"
  | .methodNotText => "'method' must be a string"
  | .paramsNotObject => "'params' must be an object"
  | .tooLong length limit =>
      "request line too long: " ++ String.ofList (Digits.decimal length) ++ " bytes (max " ++
        String.ofList (Digits.decimal limit) ++ ")"

structure Request where
  method : String
  params : Params

namespace Request

/-- The request that the members of an object make. Only the method and the parameters are looked at,
and the method first. -/
def ofMembers (members : List (String × Json)) : Except DecodeError Request :=
  match members.lookup "method" with
  | none => .error .missingMethod
  | some (.str method) =>
      match members.lookup "params" with
      | none | some .null => .ok ⟨method, .empty⟩
      | some (.obj params) => .ok ⟨method, ⟨params⟩⟩
      | some _ => .error .paramsNotObject
  | some _ => .error .methodNotText

/-- The request on a line, which is given without its terminator. -/
def decode (line : List UInt8) : Except DecodeError Request :=
  match Utf8.decode? line with
  | none => .error .notText
  | some text =>
      match Json.parse text with
      | .error fault => .error (.notJson (fault.locate text))
      | .ok (.obj members) => ofMembers members
      | .ok _ => .error .notObject

end Request

end Daybook
