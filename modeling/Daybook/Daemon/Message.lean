import Daybook.Calendar.Stamp
import Daybook.Text.Blank
import Daybook.Text.Digits

/-!
Messages of the program about itself. A message has a level and an origin, the part of the program
that it comes from. A filter says which of them are written down: each of its rules names the
beginning of an origin and the least grave level, and the rule with the longest beginning counts.
-/

namespace Daybook

/-- How grave a message is. -/
inductive Level where
  | error
  | warn
  | info
  | debug
  | trace
deriving DecidableEq, Repr

namespace Level

/-- The number of a level: the graver, the smaller. -/
def rank : Level → Nat
  | error => 1
  | warn => 2
  | info => 3
  | debug => 4
  | trace => 5

/-- The name of a level, in a column of its own. -/
def label : Level → String
  | error => "ERROR"
  | warn => " WARN"
  | info => " INFO"
  | debug => "DEBUG"
  | trace => "TRACE"

end Level

structure Message where
  level : Level
  origin : String
  text : String
deriving DecidableEq, Repr

/-- A message as it is written down, with the time to the microsecond. -/
def Message.line (m : Message) (now : Instant) : List Char :=
  let stamp := now.stamp
  stamp.dateText ++ 'T' :: stamp.clockText ++ '.' :: Digits.fixed 6 (stamp.nano / 1000) ++
    ('Z' :: ' ' :: (m.level.label ++ " " ++ m.origin ++ ": " ++ m.text).toList) ++ ['\n']

/-- A rule of a filter: the beginning of an origin, and the greatest rank that is written down. -/
structure FilterRule where
  origin : List Char
  limit : Nat
deriving DecidableEq, Repr

/-- Which messages are written down. -/
structure Filter where
  rules : List FilterRule
deriving DecidableEq, Repr

namespace Filter

/-- The filter with one rule for all messages. -/
def upTo (level : Level) : Filter := ⟨[⟨[], level.rank⟩]⟩

/-- Of two rules, the one with the longer beginning, and the later one when they are equally long. -/
def closer (earlier : Option FilterRule) (later : FilterRule) : Option FilterRule :=
  match earlier with
  | none => some later
  | some rule => if later.origin.length < rule.origin.length then some rule else some later

def admits (filter : Filter) (m : Message) : Bool :=
  let fitting := filter.rules.filter fun rule => rule.origin.isPrefixOf m.origin.toList
  match fitting.foldl closer none with
  | some rule => m.level.rank ≤ rule.limit
  | none => false

/-- The limit that a word or a digit stands for. -/
def limit? (word : List Char) : Option Nat :=
  match String.ofList (word.map Char.toLower) with
  | "off" | "0" => some 0
  | "error" | "1" => some 1
  | "warn" | "2" => some 2
  | "info" | "3" => some 3
  | "debug" | "4" => some 4
  | "trace" | "5" => some 5
  | _ => none

/-- The limit after an equals sign. Nothing stands for no limit. -/
def limitAfter? (word : List Char) : Option Nat := if word.isEmpty then some 5 else limit? word

/-- What follows a bracket is well formed: its end, and then at most a limit. -/
def closes (text : List Char) : Bool :=
  let fields := text.dropWhile fun c => c != '\x7b' && c != ']'
  let rest := match fields with
    | '\x7b' :: inner => (inner.dropWhile (· != '\x7d')).drop 1
    | rest => rest
  match rest with
  | [']'] => true
  | ']' :: '=' :: word => (limitAfter? word).isSome
  | _ => false

/-- A character with which a rule may begin. -/
def mayBegin (c : Char) : Bool := c.isAlphanum || c = '-' || c = ':' || c = '_' || 0x80 ≤ c.toNat

/-- The rule that a text stands for. A rule with brackets is about something that messages do not
have. -/
def rule? (text : List Char) : Option (Option FilterRule) :=
  match trim text with
  | [] => none
  | '[' :: rest => if closes rest then some none else none
  | c :: rest =>
      if !mayBegin c then none
      else
        let name := (c :: rest).takeWhile fun c => c != '=' && c != '['
        match (c :: rest).drop name.length with
        | [] =>
            match limit? name with
            | some limit => some (some ⟨[], limit⟩)
            | none => some (some ⟨name, 5⟩)
        | '=' :: word => (limitAfter? word).map fun limit => some ⟨name, limit⟩
        | _ :: inner => if closes inner then some none else none

def splitCommas (text : List Char) : List (List Char) :=
  text.foldr
    (fun c pieces =>
      match pieces with
      | piece :: rest => if c = ',' then [] :: piece :: rest else (c :: piece) :: rest
      | [] => [])
    [[]]

/-- The filter that a text stands for, if all its rules are well formed. Without a rule, only errors
are written down. -/
def ofText? (text : List Char) : Option Filter := do
  let rules ← ((splitCommas text).filter (!·.isEmpty)).mapM rule?
  return if rules.isEmpty then upTo .error else ⟨rules.filterMap id⟩

/-- The filter of a setting. When there is none or it is ill-formed, messages are written down from
the level of information on. -/
def ofSetting (setting : Option String) : Filter :=
  (setting.bind fun text => ofText? text.toList).getD (upTo .info)

end Filter

end Daybook
