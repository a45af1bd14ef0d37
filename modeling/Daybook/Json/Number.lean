import Daybook.Json.Basic
import Daybook.Json.Fault

namespace Daybook.Json

/-- A number as far as it has been read: the digits gathered, and the power of ten they count. -/
structure Decimal where
  significand : Nat
  exponent : Int
deriving DecidableEq, Repr

def fitsDigit (significand : Nat) (c : Char) : Bool :=
  significand * 10 + Digits.digitValue c ≤ maxNat64

/-- Reads the digits before a point. From the first that does not fit they are only counted. -/
def wholeDigits (significand dropped : Nat) : List Char → (Nat × Nat) × List Char
  | [] => ((significand, dropped), [])
  | c :: rest =>
      if !c.isDigit then ((significand, dropped), c :: rest)
      else if dropped = 0 && fitsDigit significand c then
        wholeDigits (significand * 10 + Digits.digitValue c) 0 rest
      else wholeDigits significand (dropped + 1) rest

/-- Reads the digits after a point. From the first that does not fit they are ignored. -/
def fractionDigits (significand places : Nat) : List Char → (Nat × Nat) × List Char
  | [] => ((significand, places), [])
  | c :: rest =>
      if !c.isDigit then ((significand, places), c :: rest)
      else if fitsDigit significand c then
        fractionDigits (significand * 10 + Digits.digitValue c) (places + 1) rest
      else ((significand, places), rest.dropWhile Char.isDigit)

/-- An exponent, or the rest of the text after the digit with which it leaves 32 bits. -/
inductive Exponent where
  | value (n : Nat)
  | beyond

def exponentDigits (n : Nat) : List Char → Exponent × List Char
  | [] => (.value n, [])
  | c :: rest =>
      if !c.isDigit then (.value n, c :: rest)
      else if n * 10 + Digits.digitValue c ≤ 2147483647 then
        exponentDigits (n * 10 + Digits.digitValue c) rest
      else (.beyond, rest)

def powerOfTen (n : Nat) : Float := Float.ofScientific 1 false n

/-- The binary64 number of a decimal, unless it is too great. A power of ten below `10 ^ -308` is
divided by in two steps, and beyond those everything is zero. -/
def Decimal.toFloat? (d : Decimal) : Option Float :=
  let f := d.significand.toUInt64.toFloat
  if 0 ≤ d.exponent then
    if d.exponent ≤ 308 then
      let product := f * powerOfTen d.exponent.toNat
      if product.isInf then none else some product
    else if d.significand = 0 then some 0.0
    else none
  else
    let down := d.exponent.natAbs
    if down ≤ 308 then some (f / powerOfTen down)
    else if down ≤ 616 then some (f / powerOfTen 308 / powerOfTen (down - 308))
    else some 0.0

def signed (negative : Bool) (f : Float) : Json := .float (if negative then -f else f).toBits

/-- Ends a number as a binary64 number. -/
def floatNumber (negative : Bool) (d : Decimal) (rest : List Char) :
    Except Fault (Json × List Char) :=
  match d.toFloat? with
  | some f => .ok (signed negative f, rest)
  | none => .error (Fault.before .numberOutOfRange rest)

/-- Ends a number as an integer. Negative zero and what does not fit become binary64 numbers. -/
def wholeNumber (negative : Bool) (n : Nat) : Json :=
  if !negative then .int n
  else if n = 0 ∨ 9223372036854775808 < n then signed true n.toUInt64.toFloat
  else .int (-n)

/-- Reads an exponent after its letter. -/
def exponentPart (negative : Bool) (d : Decimal) (text : List Char) :
    Except Fault (Json × List Char) :=
  let (down, text) :=
    match text with
    | '+' :: rest => (false, rest)
    | '-' :: rest => (true, rest)
    | text => (false, text)
  match text with
  | [] => .error (Fault.before .endInValue [])
  | c :: rest =>
      if !c.isDigit then .error (Fault.next .invalidNumber (c :: rest))
      else
        match exponentDigits (Digits.digitValue c) rest with
        | (.value n, rest) =>
            floatNumber negative ⟨d.significand, d.exponent + if down then -(n : Int) else n⟩ rest
        | (.beyond, rest) =>
            if d.significand ≠ 0 ∧ !down then .error (Fault.before .numberOutOfRange rest)
            else .ok (signed negative 0.0, rest.dropWhile Char.isDigit)

/-- Reads an exponent if there is one. -/
def optionalExponent (negative : Bool) (d : Decimal) : List Char → Except Fault (Json × List Char)
  | 'e' :: rest => exponentPart negative d rest
  | 'E' :: rest => exponentPart negative d rest
  | rest => floatNumber negative d rest

/-- Reads a fraction after its point, and what follows it. -/
def fractionPart (negative : Bool) (d : Decimal) : List Char → Except Fault (Json × List Char)
  | [] => .error (Fault.next .endInValue [])
  | c :: rest =>
      if !c.isDigit then .error (Fault.next .invalidNumber (c :: rest))
      else
        let ((significand, places), rest) := fractionDigits d.significand 0 (c :: rest)
        optionalExponent negative ⟨significand, d.exponent - places⟩ rest

/-- Reads what follows the digits before a point. -/
def numberTail (negative : Bool) (significand dropped : Nat) :
    List Char → Except Fault (Json × List Char)
  | '.' :: rest => fractionPart negative ⟨significand, dropped⟩ rest
  | 'e' :: rest => exponentPart negative ⟨significand, dropped⟩ rest
  | 'E' :: rest => exponentPart negative ⟨significand, dropped⟩ rest
  | rest =>
      if dropped = 0 then .ok (wholeNumber negative significand, rest)
      else floatNumber negative ⟨significand, dropped⟩ rest

/-- Reads a number after its sign. A zero at the front stands alone. -/
def number (negative : Bool) : List Char → Except Fault (Json × List Char)
  | [] => .error (Fault.before .endInValue [])
  | '0' :: rest =>
      if rest.head?.any Char.isDigit then .error (Fault.next .invalidNumber rest)
      else numberTail negative 0 0 rest
  | c :: rest =>
      if !c.isDigit then .error (Fault.next .invalidNumber (c :: rest))
      else
        let ((significand, dropped), rest) := wholeDigits (Digits.digitValue c) 0 rest
        numberTail negative significand dropped rest

end Daybook.Json
