/-!
UTF-8: the bytes of a text, and the text that bytes stand for.

Reading is done one byte at a time. The scanner holds what it has seen of a character that is not
complete, and emits a character when the last of its bytes has come, or a gap when the bytes seen so
far cannot be completed. A gap covers as many bytes as could still have been the start of a
character, so ill-formed text has one gap for each maximal such part.
-/

namespace Daybook.Utf8

def encodeChar (c : Char) : List UInt8 :=
  let n := c.toNat
  if n < 0x80 then
    [UInt8.ofNat n]
  else if n < 0x800 then
    [UInt8.ofNat (0xC0 + n / 0x40), UInt8.ofNat (0x80 + n % 0x40)]
  else if n < 0x10000 then
    [UInt8.ofNat (0xE0 + n / 0x1000), UInt8.ofNat (0x80 + n / 0x40 % 0x40),
      UInt8.ofNat (0x80 + n % 0x40)]
  else
    [UInt8.ofNat (0xF0 + n / 0x40000), UInt8.ofNat (0x80 + n / 0x1000 % 0x40),
      UInt8.ofNat (0x80 + n / 0x40 % 0x40), UInt8.ofNat (0x80 + n % 0x40)]

def encode (text : List Char) : List UInt8 := text.flatMap encodeChar

def size (text : List Char) : Nat := text.foldl (fun n c => n + c.utf8Size) 0

/-- A character whose first bytes have been read: their value, how many bytes are due after the next
one, and the range the next one must lie in. -/
structure Pending where
  value : Nat
  due : Nat
  low : Nat
  high : Nat
deriving DecidableEq, Repr

/-- What a first byte says of its character. -/
inductive Lead where
  | complete (c : Char)
  | pending (p : Pending)
  | illFormed
deriving DecidableEq, Repr

/-- The reading of a byte that stands first. The ranges leave out overlong forms, surrogates and
values above U+10FFFF. -/
def lead (b : Nat) : Lead :=
  if b < 0x80 then .complete (Char.ofNat b)
  else if b < 0xC2 then .illFormed
  else if b < 0xE0 then .pending ⟨b - 0xC0, 0, 0x80, 0xBF⟩
  else if b < 0xE1 then .pending ⟨0, 1, 0xA0, 0xBF⟩
  else if b < 0xED then .pending ⟨b - 0xE0, 1, 0x80, 0xBF⟩
  else if b < 0xEE then .pending ⟨0xD, 1, 0x80, 0x9F⟩
  else if b < 0xF0 then .pending ⟨b - 0xE0, 1, 0x80, 0xBF⟩
  else if b < 0xF1 then .pending ⟨0, 2, 0x90, 0xBF⟩
  else if b < 0xF4 then .pending ⟨b - 0xF0, 2, 0x80, 0xBF⟩
  else if b < 0xF5 then .pending ⟨4, 2, 0x80, 0x8F⟩
  else .illFormed

/-- The state between two bytes: the pieces read so far, the latest first, where `none` is a gap, and
the character that is being read, if any. -/
structure Scanner where
  pieces : List (Option Char)
  pending : Option Pending

/-- Reads a byte as the first of a character. -/
def Scanner.start (pieces : List (Option Char)) (b : Nat) : Scanner :=
  match lead b with
  | .complete c => ⟨some c :: pieces, none⟩
  | .pending p => ⟨pieces, some p⟩
  | .illFormed => ⟨none :: pieces, none⟩

/-- Reads the next byte. A byte that cannot go on with the pending character ends it as a gap and is
read as a first byte. -/
def Scanner.push (s : Scanner) (byte : UInt8) : Scanner :=
  let b := byte.toNat
  match s.pending with
  | none => Scanner.start s.pieces b
  | some p =>
      if p.low ≤ b ∧ b ≤ p.high then
        let value := p.value * 0x40 + (b - 0x80)
        match p.due with
        | 0 => ⟨some (Char.ofNat value) :: s.pieces, none⟩
        | due + 1 => ⟨s.pieces, some ⟨value, due, 0x80, 0xBF⟩⟩
      else Scanner.start (none :: s.pieces) b

/-- All pieces, in order. A character that is still pending is a gap. -/
def Scanner.finish (s : Scanner) : List (Option Char) :=
  match s.pending with
  | none => s.pieces.reverse
  | some _ => (none :: s.pieces).reverse

def pieces (bytes : List UInt8) : List (Option Char) :=
  (bytes.foldl Scanner.push ⟨[], none⟩).finish

def decode? (bytes : List UInt8) : Option (List Char) :=
  let ps := pieces bytes
  if ps.all Option.isSome then some (ps.filterMap id) else none

/-- The text of any bytes, with U+FFFD for each gap. -/
def decodeLossy (bytes : List UInt8) : List Char :=
  (pieces bytes).map fun piece => piece.getD '\uFFFD'

end Daybook.Utf8
