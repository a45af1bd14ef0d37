import Daybook.Text.Digits

/-!
The shortest decimal of a binary64 number: among the decimals that no other binary64 number is nearer
to, those with the fewest digits, and among these the one nearest to the number itself.

All is done in exact arithmetic. The numbers that round to `m · 2 ^ q` fill an interval around it,
with its ends when `m` is even. A grid of powers of ten is tried from the widest on: the first with a
point in the interval gives the fewest digits, and of the two points next to the number one is the
nearest.
-/

namespace Daybook.Decimal

/-- A positive number `digits · 10 ^ exponent`. -/
structure Scientific where
  digits : Nat
  exponent : Int
deriving DecidableEq, Repr

/-- The numbers that round to one binary64 number, as multiples of `unit`: the number itself, the
ends of the interval, and whether they belong to it. -/
structure Neighbourhood where
  centre : Nat
  low : Nat
  high : Nat
  closed : Bool
  /-- The unit is `2 ^ exponent`. -/
  exponent : Int
deriving DecidableEq, Repr

def isNegative (bits : UInt64) : Bool := 9223372036854775808 ≤ bits.toNat

/-- The bits of a binary64 number after its sign. -/
def magnitude (bits : UInt64) : Nat := bits.toNat % 9223372036854775808

/-- The neighbourhood of a finite binary64 number other than zero. The step below a power of two is
half the step above it, but for the least exponent. -/
def neighbourhood (bits : UInt64) : Neighbourhood :=
  let exponentField := magnitude bits / 4503599627370496
  let fraction := magnitude bits % 4503599627370496
  let m := if exponentField = 0 then fraction else fraction + 4503599627370496
  let q : Int := if exponentField = 0 then -1074 else exponentField - 1075
  let narrow := fraction = 0 ∧ 1 < exponentField
  ⟨4 * m, if narrow then 4 * m - 1 else 4 * m - 2, 4 * m + 2, m % 2 = 0, q - 2⟩

/-- The number of units of a neighbourhood in `10 ^ k`, as a quotient of two natural numbers. -/
def gridStep (n : Neighbourhood) (k : Int) : Nat × Nat :=
  (Nat.pow 10 k.toNat * Nat.pow 2 (-n.exponent).toNat,
    Nat.pow 10 (-k).toNat * Nat.pow 2 n.exponent.toNat)

/-- Whether `a · num / den` lies in a neighbourhood. -/
def Neighbourhood.admits (n : Neighbourhood) (a num den : Nat) : Bool :=
  if n.closed then n.low * den ≤ a * num && a * num ≤ n.high * den
  else n.low * den < a * num && a * num < n.high * den

/-- The point of the grid of `10 ^ k` in a neighbourhood that is nearest to its centre; of two that
are equally near, the even one. -/
def gridPoint? (n : Neighbourhood) (k : Int) : Option Nat :=
  let (num, den) := gridStep n k
  let below := n.centre * den / num
  let remainder := n.centre * den - below * num
  match n.admits below num den, n.admits (below + 1) num den with
  | true, true =>
      if 2 * remainder < num ∨ (2 * remainder = num ∧ below % 2 = 0) then some below
      else some (below + 1)
  | true, false => some below
  | false, true => some (below + 1)
  | false, false => none

/-- Tries the grids from `10 ^ (steps - 326)` down. -/
def widestGrid (n : Neighbourhood) : (steps : Nat) → Scientific
  | 0 => ⟨0, 0⟩
  | steps + 1 =>
      let k : Int := steps - 325
      match gridPoint? n k with
      | some a => ⟨a, k⟩
      | none => widestGrid n steps

/-- The shortest decimal of a finite binary64 number other than zero, without its sign. The grids go
from `10 ^ 309`, above the greatest number, down to `10 ^ -325`, below the least. -/
def shortest (bits : UInt64) : Scientific := widestGrid (neighbourhood bits) 635

def exponentText (e : Int) : List Char :=
  if e < 0 then Digits.integer e else '+' :: Digits.integer e

/-- The text of a positive decimal. It is positional while the point stands at most 16 places after
the first digit or 5 before it, and then has a digit after the point. -/
def Scientific.text (s : Scientific) : List Char :=
  let ds := Digits.decimal s.digits
  let count : Int := ds.length
  let point := count + s.exponent
  if 0 ≤ s.exponent ∧ point ≤ 16 then
    ds ++ List.replicate s.exponent.toNat '0' ++ ['.', '0']
  else if 0 < point ∧ point ≤ 16 then
    ds.take point.toNat ++ '.' :: ds.drop point.toNat
  else if -5 < point ∧ point ≤ 0 then
    '0' :: '.' :: List.replicate (-point).toNat '0' ++ ds
  else if count = 1 then
    ds ++ 'e' :: exponentText (point - 1)
  else
    ds.take 1 ++ '.' :: ds.drop 1 ++ 'e' :: exponentText (point - 1)

def text (bits : UInt64) : List Char :=
  let unsigned := if magnitude bits = 0 then ['0', '.', '0'] else (shortest bits).text
  if isNegative bits then '-' :: unsigned else unsigned

end Daybook.Decimal
