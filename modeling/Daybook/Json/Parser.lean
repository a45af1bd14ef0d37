import Daybook.Json.Number

/-!
Reading JSON. Every reader takes a text apart from the front and returns what it read and the rest, or
the first fault. The readers of lists and objects are given the reader of an item or a member, so that
an answer with known members is read in the same way as any object.

A loop over items is charged one character for each round, out of a budget that is the text itself
when it begins. Each round reads a character or more, so that the budget lasts as long as the text.
-/

namespace Daybook.Json

/-- A character that may stand between the parts of a text. -/
def isGap (c : Char) : Bool := c == ' ' || c == '\t' || c == '\n' || c == '\r'

def skipGap (text : List Char) : List Char := text.dropWhile isGap

/-- Reads the rest of a word of which the first letter has been read. -/
def word : (letters text : List Char) → Except Fault (List Char)
  | [], text => .ok text
  | _ :: _, [] => .error (Fault.before .endInValue [])
  | l :: letters, c :: rest =>
      if l = c then word letters rest else .error (Fault.next .wordExpected (c :: rest))

def hexValue? (c : Char) : Option Nat :=
  if c.isDigit then some (c.toNat - 48)
  else if 'a' ≤ c ∧ c ≤ 'f' then some (c.toNat - 87)
  else if 'A' ≤ c ∧ c ≤ 'F' then some (c.toNat - 55)
  else none

/-- A code unit from `0xD800` to `0xDBFF`, the first half of a pair. -/
def isLeading (n : Nat) : Bool := 0xD800 ≤ n && n ≤ 0xDBFF

/-- A code unit from `0xDC00` to `0xDFFF`, the second half of a pair. -/
def isTrailing (n : Nat) : Bool := 0xDC00 ≤ n && n ≤ 0xDFFF

def pairChar (lead trail : Nat) : Char :=
  Char.ofNat (0x10000 + (lead - 0xD800) * 0x400 + (trail - 0xDC00))

/-- Where a reader stands inside a string. `lead` is the first half of a pair that has been read. -/
inductive Inside where
  | plain
  /-- After a backslash. -/
  | escape
  /-- Among the four bytes of a code unit: its value, unless one was no digit, and how many bytes have
  been read. -/
  | unit (lead : Option Nat) (value : Option Nat) (bytes : Nat)
  /-- After the first half of a pair. -/
  | pair (lead : Nat)
  /-- After the first half of a pair and a backslash. -/
  | pairEscape (lead : Nat)
deriving DecidableEq, Repr

/-- The character of an escape of one letter. -/
def escaped? (c : Char) : Option Char :=
  match c with
  | '"' => some '"'
  | '\\' => some '\\'
  | '/' => some '/'
  | 'b' => some '\x08'
  | 'f' => some '\x0c'
  | 'n' => some '\n'
  | 'r' => some '\r'
  | 't' => some '\t'
  | _ => none

/-- A code unit that has been read to its end: the next state and the character it completes, if
any. -/
def endUnit (lead : Option Nat) (value : Option Nat) : Except Cause (Inside × Option Char) :=
  match value with
  | none => .error .invalidEscape
  | some n =>
      match lead with
      | some l =>
          if isTrailing n then .ok (.plain, some (pairChar l n)) else .error .loneSurrogate
      | none =>
          if isTrailing n then .error .loneSurrogate
          else if isLeading n then .ok (.pair n, none)
          else .ok (.plain, some (Char.ofNat n))

/-- Reads the rest of a string up to and with its closing quote. `done` holds what has been read, the
latest first. The four bytes of a code unit are taken even when they end within a character. -/
def stringFrom : Inside → (done text : List Char) → Except Fault (String × List Char)
  | _, _, [] => .error (Fault.before .endInString [])
  | .plain, done, c :: rest =>
      if c = '"' then .ok (String.ofList done.reverse, rest)
      else if c = '\\' then stringFrom .escape done rest
      else if c.toNat < 0x20 then .error (Fault.before .controlCharacter rest)
      else stringFrom .plain (c :: done) rest
  | .escape, done, c :: rest =>
      if c = 'u' then stringFrom (.unit none (some 0) 0) done rest
      else
        match escaped? c with
        | some e => stringFrom .plain (e :: done) rest
        | none => .error (Fault.next .invalidEscape (c :: rest))
  | .unit lead value bytes, done, c :: rest =>
      let value := do return (← value) * 16 + (← hexValue? c)
      let bytes := bytes + c.utf8Size
      if bytes < 4 then stringFrom (.unit lead value bytes) done rest
      else
        match endUnit lead value with
        | .ok (state, none) => stringFrom state done rest
        | .ok (state, some e) => stringFrom state (e :: done) rest
        | .error cause => .error ⟨cause, Utf8.size rest + (bytes - 4)⟩
  | .pair lead, done, c :: rest =>
      if c = '\\' then stringFrom (.pairEscape lead) done rest
      else .error (Fault.next .halfSurrogate (c :: rest))
  | .pairEscape lead, done, c :: rest =>
      if c = 'u' then stringFrom (.unit (some lead) (some 0) 0) done rest
      else .error (Fault.next .halfSurrogate (c :: rest))

/-- Reads the rest of a string after its opening quote. -/
def string (text : List Char) : Except Fault (String × List Char) := stringFrom .plain [] text

/-- Goes to the next item of a list: whether there is one, and the text from it on, or after the
closing bracket. -/
def listStep (first : Bool) (text : List Char) : Except Fault (Bool × List Char) :=
  match skipGap text with
  | [] => .error (Fault.next .endInList [])
  | c :: rest =>
      if c = ']' then .ok (false, rest)
      else if first then .ok (true, c :: rest)
      else if c = ',' then
        match skipGap rest with
        | [] => .error (Fault.next .endInValue [])
        | d :: rest =>
            if d = ']' then .error (Fault.next .trailingComma (d :: rest))
            else .ok (true, d :: rest)
      else .error (Fault.next .listCommaExpected (c :: rest))

/-- Reads the items of a list up to and with its closing bracket. -/
def items {α : Type} (item : List Char → Except Fault (α × List Char)) :
    (budget : List Char) → (first : Bool) → (done : List α) → (text : List Char) →
      Except Fault (List α × List Char)
  | [], _, _, _ => .error (Fault.next .endInList [])
  | _ :: budget, first, done, text => do
      let (more, text) ← listStep first text
      if more then
        let (a, rest) ← item text
        items item budget false (a :: done) rest
      else return (done.reverse, text)

/-- Goes to the next member of an object: whether there is one, and the text after the quote that
opens its name, or after the closing brace. -/
def objectStep (first : Bool) (text : List Char) : Except Fault (Bool × List Char) :=
  match skipGap text with
  | [] => .error (Fault.next .endInObject [])
  | c :: rest =>
      if c = '\x7d' then .ok (false, rest)
      else if first then
        if c = '"' then .ok (true, rest) else .error (Fault.next .keyExpected (c :: rest))
      else if c = ',' then
        match skipGap rest with
        | [] => .error (Fault.next .endInValue [])
        | d :: rest =>
            if d = '"' then .ok (true, rest)
            else if d = '\x7d' then .error (Fault.next .trailingComma (d :: rest))
            else .error (Fault.next .keyExpected (d :: rest))
      else .error (Fault.next .objectCommaExpected (c :: rest))

/-- Reads the members of an object up to and with its closing brace. `member` is given a name, what
has been made of the members before, and the text after the name. -/
def members {σ : Type} (member : String → σ → List Char → Except Fault (σ × List Char)) :
    (budget : List Char) → (first : Bool) → σ → (text : List Char) → Except Fault (σ × List Char)
  | [], _, _, _ => .error (Fault.next .endInObject [])
  | _ :: budget, first, state, text => do
      let (more, text) ← objectStep first text
      if more then
        let (name, rest) ← string text
        let (state, rest) ← member name state rest
        members member budget false state rest
      else return (state, text)

def colon (text : List Char) : Except Fault (List Char) :=
  match skipGap text with
  | [] => .error (Fault.next .endInObject [])
  | c :: rest => if c = ':' then .ok rest else .error (Fault.next .colonExpected (c :: rest))

/-- Reads a value and enters it under a name. -/
def enter (value : List Char → Except Fault (Json × List Char)) (name : String)
    (state : List (String × Json)) (text : List Char) :
    Except Fault (List (String × Json) × List Char) := do
  let text ← colon text
  let (j, rest) ← value text
  return ((name, j) :: state, rest)

/-- Reads a value in which lists and objects may be nested `depth` deep. -/
def value : (depth : Nat) → List Char → Except Fault (Json × List Char)
  | depth, text =>
      match skipGap text with
      | [] => .error (Fault.next .endInValue [])
      | 'n' :: rest => (word ['u', 'l', 'l'] rest).map fun rest => (.null, rest)
      | 't' :: rest => (word ['r', 'u', 'e'] rest).map fun rest => (.bool true, rest)
      | 'f' :: rest => (word ['a', 'l', 's', 'e'] rest).map fun rest => (.bool false, rest)
      | '-' :: rest => number true rest
      | '"' :: rest => (string rest).map fun (s, rest) => (.str s, rest)
      | '[' :: rest =>
          match depth with
          | 0 => .error (Fault.next .nestedTooDeep ('[' :: rest))
          | depth + 1 =>
              (items (value depth) rest true [] rest).map fun (js, rest) => (.arr js, rest)
      | '\x7b' :: rest =>
          match depth with
          | 0 => .error (Fault.next .nestedTooDeep ('\x7b' :: rest))
          | depth + 1 =>
              (members (enter (value depth)) rest true [] rest).map fun (ms, rest) =>
                (.obj (Members.ofReversed ms), rest)
      | c :: rest =>
          if c.isDigit then number false (c :: rest)
          else .error (Fault.next .valueExpected (c :: rest))

/-- How deep lists and objects may be nested. -/
def maxDepth : Nat := 127

/-- Sees that nothing but a gap follows a value. -/
def finish {α : Type} : α × List Char → Except Fault α
  | (a, text) =>
      match skipGap text with
      | [] => .ok a
      | c :: rest => .error (Fault.next .trailingCharacters (c :: rest))

/-- Reads a text that holds one value. -/
def parse (text : List Char) : Except Fault Json := do
  finish (← value maxDepth text)

end Daybook.Json
