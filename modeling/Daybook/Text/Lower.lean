import Daybook.Text.CaseTable

namespace Daybook.Case

def inRanges (ranges : List (Nat × Nat)) (c : Char) : Bool :=
  ranges.any fun (low, high) => low ≤ c.toNat && c.toNat ≤ high

def isCased (c : Char) : Bool := inRanges casedRanges c

/-- A character that does not end a word, such as an apostrophe or a combining mark. -/
def isIgnorable (c : Char) : Bool := inRanges ignorableRanges c

def Run.contains (run : Run) (n : Nat) : Bool :=
  run.first ≤ n && n ≤ run.last && (n - run.first) % run.stride == 0

/-- The lower-case form of a character that has one by itself. -/
def lowerSimple (c : Char) : Char :=
  if c.toNat < 0x80 then
    if 'A' ≤ c ∧ c ≤ 'Z' then Char.ofNat (c.toNat + 32) else c
  else
    match lowerRuns.find? (·.contains c.toNat) with
    | some run => Char.ofNat (c.toNat + run.shift).toNat
    | none => c

/-- Whether the first character that is not ignorable is a letter with a case. -/
def reachesCased (text : List Char) : Bool :=
  match text.dropWhile isIgnorable with
  | [] => false
  | c :: _ => isCased c

/-- The lower-case form of a character between what stands before it, the nearest first, and what
stands after it. -/
def lowerBetween (before : List Char) (c : Char) (after : List Char) : List Char :=
  if c = 'Σ' then
    if reachesCased before && !reachesCased after then ['ς'] else ['σ']
  else if c = 'İ' then ['i', '\u0307']
  else [lowerSimple c]

/-- Lower-cases the rest of a text, with `done` the part already lower-cased, the latest first. -/
def lowerFrom : (before rest done : List Char) → List Char
  | _, [], done => done.reverse
  | before, c :: rest, done =>
      lowerFrom (c :: before) rest ((lowerBetween before c rest).reverse ++ done)

def lower (text : List Char) : List Char := lowerFrom [] text []

def occursIn (part : List Char) : List Char → Bool
  | [] => part.isEmpty
  | c :: rest => part.isPrefixOf (c :: rest) || occursIn part rest

end Daybook.Case
