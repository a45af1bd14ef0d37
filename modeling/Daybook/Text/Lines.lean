namespace Daybook

/-- The byte that ends a line. -/
def lineFeed : UInt8 := 10

/-- The byte that may stand before a line feed and then belongs to the terminator. -/
def carriageReturn : UInt8 := 13

/-- A line as it stands in a byte string: the bytes before its line feed, and whether it has one. -/
structure Line where
  bytes : List UInt8
  terminated : Bool
deriving DecidableEq, Repr

/-- The bytes of a line without its terminator, which may be a carriage return and a line feed. -/
def Line.content (line : Line) : List UInt8 :=
  if line.terminated && line.bytes.getLast? == some carriageReturn then line.bytes.dropLast
  else line.bytes

/-- The state between two bytes: the lines that are complete and the bytes of the open one, each with
the latest first. -/
structure LineCutter where
  done : List Line
  current : List UInt8

def LineCutter.push (s : LineCutter) (b : UInt8) : LineCutter :=
  if b = lineFeed then ⟨⟨s.current.reverse, true⟩ :: s.done, []⟩ else ⟨s.done, b :: s.current⟩

def LineCutter.finish (s : LineCutter) : List Line :=
  match s.current with
  | [] => s.done.reverse
  | _ :: _ => (⟨s.current.reverse, false⟩ :: s.done).reverse

def linesOf (bytes : List UInt8) : List Line :=
  (bytes.foldl LineCutter.push ⟨[], []⟩).finish

end Daybook
