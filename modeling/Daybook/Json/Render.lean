import Daybook.Decimal.Shortest
import Daybook.Json.Basic

namespace Daybook.Json

def hexDigit (n : Nat) : Char :=
  if n < 10 then Char.ofNat (48 + n) else Char.ofNat (87 + n)

def escape (c : Char) : List Char :=
  match c with
  | '"' => ['\\', '"']
  | '\\' => ['\\', '\\']
  | '\x08' => ['\\', 'b']
  | '\x0c' => ['\\', 'f']
  | '\n' => ['\\', 'n']
  | '\r' => ['\\', 'r']
  | '\t' => ['\\', 't']
  | c =>
      if c.toNat < 0x20 then
        ['\\', 'u', '0', '0', hexDigit (c.toNat / 16), hexDigit (c.toNat % 16)]
      else [c]

def quoted (s : String) : List Char := '"' :: s.toList.flatMap escape ++ ['"']

def render : Json → List Char
  | .null => ['n', 'u', 'l', 'l']
  | .bool true => ['t', 'r', 'u', 'e']
  | .bool false => ['f', 'a', 'l', 's', 'e']
  | .int v => Digits.integer v
  | .float bits => Decimal.text bits
  | .str s => quoted s
  | .arr items => '[' :: [','].intercalate (items.map render) ++ [']']
  | .obj members =>
      '\x7b' :: [','].intercalate (members.map fun m => quoted m.1 ++ ':' :: render m.2) ++ ['\x7d']
decreasing_by
  · have := List.sizeOf_lt_of_mem ‹_ ∈ items›
    simp only [arr.sizeOf_spec]
    omega
  · have := List.sizeOf_lt_of_mem ‹m ∈ members›
    have : sizeOf m = 1 + sizeOf m.1 + sizeOf m.2 := rfl
    simp only [obj.sizeOf_spec]
    omega

end Daybook.Json
