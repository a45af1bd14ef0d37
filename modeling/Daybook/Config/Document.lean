import Daybook.Config.Basic
import Daybook.Text.Digits

/-!
The text of a config file: lines `key = value` with comments and empty lines between them, in TOML.
A key is a bare word or a string, and a value is a string or an integer. No setting has a value of
another kind, and none stands in a table, so nothing else is read.
-/

namespace Daybook.Document

def isSpace (c : Char) : Bool := c == ' ' || c == '\t'

def skipSpace (text : List Char) : List Char := text.dropWhile isSpace

/-- A character that may not stand in a comment or a string as it is. -/
def isControl (c : Char) : Bool := (c.toNat < 0x20 && c != '\t') || c.toNat == 0x7F

def isBare (c : Char) : Bool := c.isAlphanum || c == '_' || c == '-'

def hexDigit? (c : Char) : Option Nat :=
  if c.isDigit then some (c.toNat - 48)
  else if 'a' ≤ c ∧ c ≤ 'f' then some (c.toNat - 87)
  else if 'A' ≤ c ∧ c ≤ 'F' then some (c.toNat - 55)
  else none

/-- The character with a number, unless the number is that of a surrogate or too great. -/
def char? (n : Nat) : Option Char := if n.isValidChar then some (Char.ofNat n) else none

/-- What an escape of one letter stands for, or how many hexadecimal digits follow the letter. -/
def escape? (c : Char) : Option (Char ⊕ Nat) :=
  match c with
  | '"' => some (.inl '"')
  | '\\' => some (.inl '\\')
  | 'b' => some (.inl '\x08')
  | 't' => some (.inl '\t')
  | 'n' => some (.inl '\n')
  | 'f' => some (.inl '\x0c')
  | 'r' => some (.inl '\r')
  | 'e' => some (.inl '\x1b')
  | 'x' => some (.inr 2)
  | 'u' => some (.inr 4)
  | 'U' => some (.inr 8)
  | _ => none

/-- Where a reader stands inside a string with escapes. -/
inductive Inside where
  | plain
  /-- After a backslash. -/
  | escape
  /-- Among hexadecimal digits, of which so many are due after the next one. -/
  | digits (due value : Nat)
  /-- After a backslash at the end of a line, which takes away the white space around the line end. -/
  | joint (ended : Bool)

/-- Reads the rest of the quotes that close a string of several lines, after the first of them. There
are three to five, of which the last three close the string and the others belong to it. -/
def closing? (quote : Char) : List Char → Option (List Char × List Char)
  | a :: b :: rest =>
      if a = quote ∧ b = quote then
        match rest with
        | c :: d :: more =>
            if c = quote ∧ d = quote then some ([quote, quote], more)
            else if c = quote then some ([quote], d :: more)
            else some ([], rest)
        | [c] => if c = quote then some ([quote], []) else some ([], rest)
        | [] => some ([], [])
      else none
  | _ => none

/-- A line end may stand in a string of several lines; a carriage return only as a part of one. -/
def isLineEnd (c : Char) (rest : List Char) : Bool :=
  c == '\n' || (c == '\r' && rest.head? == some '\n')

/-- The state in which a character is read: after the white space around a line end, anything else is
read as it is read anywhere. -/
def Inside.settle (c : Char) (rest : List Char) : Inside → Inside
  | .joint true => if isSpace c || isLineEnd c rest then .joint true else .plain
  | state => state

/-- Reads the rest of a string with escapes after its opening quotes. `done` holds what has been read,
the latest first. -/
def basicFrom (multiline : Bool) : Inside → (done text : List Char) →
    Option (String × List Char)
  | _, _, [] => none
  | state, done, c :: rest =>
      match state.settle c rest with
      | .plain =>
          if c = '"' then
            if multiline then
              match closing? '"' rest with
              | some (quotes, rest) => some (String.ofList (done.reverse ++ quotes), rest)
              | none => basicFrom multiline .plain (c :: done) rest
            else some (String.ofList done.reverse, rest)
          else if c = '\\' then basicFrom multiline .escape done rest
          else if isControl c && !(multiline && isLineEnd c rest) then none
          else basicFrom multiline .plain (c :: done) rest
      | .escape =>
          match escape? c with
          | some (.inl e) => basicFrom multiline .plain (e :: done) rest
          | some (.inr count) => basicFrom multiline (.digits (count - 1) 0) done rest
          | none =>
              if multiline && (isSpace c || isLineEnd c rest) then
                basicFrom multiline (.joint (c == '\n')) done rest
              else none
      | .digits due value => do
          let value := value * 16 + (← hexDigit? c)
          match due with
          | due + 1 => basicFrom multiline (.digits due value) done rest
          | 0 => basicFrom multiline .plain ((← char? value) :: done) rest
      | .joint ended =>
          if isSpace c || isLineEnd c rest then
            basicFrom multiline (.joint (ended || c == '\n')) done rest
          else none

/-- Reads the rest of a string without escapes after its opening quotes. -/
def literalFrom (multiline : Bool) : (done text : List Char) → Option (String × List Char)
  | _, [] => none
  | done, c :: rest =>
      if c = '\'' then
        if multiline then
          match closing? '\'' rest with
          | some (quotes, rest) => some (String.ofList (done.reverse ++ quotes), rest)
          | none => literalFrom multiline (c :: done) rest
        else some (String.ofList done.reverse, rest)
      else if isControl c && !(multiline && isLineEnd c rest) then none
      else literalFrom multiline (c :: done) rest

/-- The text after a line end at its front, which does not belong to a string of several lines. -/
def skipLineEnd : List Char → List Char
  | '\n' :: rest => rest
  | '\r' :: '\n' :: rest => rest
  | text => text

def line? : List Char → Option (String × List Char)
  | '"' :: rest => basicFrom false .plain [] rest
  | '\'' :: rest => literalFrom false [] rest
  | _ => none

def text? : List Char → Option (String × List Char)
  | '"' :: '"' :: '"' :: rest => basicFrom true .plain [] (skipLineEnd rest)
  | '\'' :: '\'' :: '\'' :: rest => literalFrom true [] (skipLineEnd rest)
  | text => line? text

/-- The value of digits in a base, with single underscores between them. `after` is true after a
digit. -/
def groupedFrom (base : Nat) (after : Bool) (value : Nat) : List Char → Option Nat
  | [] => if after then some value else none
  | c :: rest =>
      if c = '_' then if after then groupedFrom base false value rest else none
      else
        match hexDigit? c with
        | some d => if d < base then groupedFrom base true (value * base + d) rest else none
        | none => none

/-- The value of decimal digits, of which the first is no zero unless it stands alone. -/
def decimal? : List Char → Option Nat
  | ['0'] => some 0
  | '0' :: _ => none
  | ds => groupedFrom 10 false 0 ds

/-- The value of an integer: decimal with or without a sign, or in base 16, 8 or 2 without one. -/
def integer? : List Char → Option Int
  | '+' :: ds => (decimal? ds).map Int.ofNat
  | '-' :: ds => (decimal? ds).map fun n => -(n : Int)
  | '0' :: 'x' :: ds => (groupedFrom 16 false 0 ds).map Int.ofNat
  | '0' :: 'o' :: ds => (groupedFrom 8 false 0 ds).map Int.ofNat
  | '0' :: 'b' :: ds => (groupedFrom 2 false 0 ds).map Int.ofNat
  | ds => (decimal? ds).map Int.ofNat

def value? (text : List Char) : Option (Setting × List Char) :=
  match text? text with
  | some (s, rest) => some (.text s, rest)
  | none =>
      let isNumeric := fun c => isBare c || c == '+'
      (integer? (text.takeWhile isNumeric)).map fun n => (.integer n, text.dropWhile isNumeric)

def key? (text : List Char) : Option (String × List Char) :=
  match line? text with
  | some key => some key
  | none =>
      let word := text.takeWhile isBare
      if word.isEmpty then none else some (String.ofList word, text.dropWhile isBare)

/-- Reads a comment, if there is one, and the line end or the end of the text. -/
def lineEnd? (text : List Char) : Option (List Char) :=
  let rest :=
    match skipSpace text with
    | '#' :: rest => rest.dropWhile fun c => !isControl c
    | rest => rest
  match rest with
  | [] => some []
  | '\n' :: rest => some rest
  | '\r' :: '\n' :: rest => some rest
  | _ => none

def assignment? (text : List Char) : Option ((String × Setting) × List Char) := do
  let (key, rest) ← key? text
  match skipSpace rest with
  | '=' :: rest =>
      let (value, rest) ← value? (skipSpace rest)
      return ((key, value), rest)
  | _ => none

/-- Reads the lines of a document. `done` holds the assignments so far, the latest first. Each line is
charged one character of `budget`, which is the text when it begins. -/
def linesFrom : (budget : List Char) → (done : List (String × Setting)) → (text : List Char) →
    Option (List (String × Setting))
  | [], done, _ => some done.reverse
  | _ :: budget, done, text =>
      match skipSpace text with
      | [] => some done.reverse
      | text =>
          match lineEnd? text with
          | some rest => linesFrom budget done rest
          | none => do
              let (entry, rest) ← assignment? text
              let rest ← lineEnd? rest
              linesFrom budget (entry :: done) rest

/-- The assignments of a document, in order. A byte order mark may stand in front. -/
def parse? (text : List Char) : Option (List (String × Setting)) :=
  match text with
  | '\uFEFF' :: rest => linesFrom rest [] rest
  | text => linesFrom text [] text

def distinctKeys : List (String × Setting) → Bool
  | [] => true
  | (key, _) :: rest => rest.all (·.1 != key) && distinctKeys rest

/-- The configuration that a document describes. What it does not mention stays as it is. -/
def config? (base : Config) (text : List Char) : Option Config := do
  let entries ← parse? text
  if distinctKeys entries then
    entries.foldlM (fun config (key, value) => config.set? key value) base
  else none

end Daybook.Document
