import Daybook.Error
import Daybook.Text.Utf8

/-!
Addresses of databases. The path of a database is that of a file, with three exceptions: the empty
path and `:memory:` name a database in memory that no one else has, and a path that begins with
`file:` is an address in the form of a URI. Such an address has a path in which bytes may be given by
`%` and two hexadecimal digits, and options after a question mark, which say what may be done with the
file and how it is changed.
-/

namespace Daybook

/-- What may be done with the file of a database: reading it, changing it when it is there, or making
it as well. -/
inductive Access where
  | read
  | change
  | create
deriving DecidableEq, Repr

/-- How a file is changed: through a log with an index in a file, through a log alone, directly, or
never. -/
inductive Manner where
  | logged
  | loggedAlone
  | direct
  | frozen
deriving DecidableEq, Repr

/-- Where a database is. One in memory may be shared under a name. -/
inductive Site where
  | memory (name : Option String)
  | file (path : String)
deriving DecidableEq, Repr

/-- Where a database is and how it is used. -/
structure Address where
  site : Site
  access : Access
  manner : Manner
deriving DecidableEq, Repr

namespace Address

def ascii (c : Char) : UInt8 := UInt8.ofNat c.toNat

def hexDigit? (b : UInt8) : Option Nat :=
  let n := b.toNat
  if 48 ≤ n ∧ n ≤ 57 then some (n - 48)
  else if 65 ≤ n ∧ n ≤ 70 then some (n - 55)
  else if 97 ≤ n ∧ n ≤ 102 then some (n - 87)
  else none

/-- The bytes that a piece of an address stands for. A zero byte ends it. -/
def unescape : List UInt8 → List UInt8
  | [] => []
  | percent :: high :: low :: rest =>
      match if percent = ascii '%' then hexDigit? high else none, hexDigit? low with
      | some h, some l =>
          if h = 0 ∧ l = 0 then [] else UInt8.ofNat (16 * h + l) :: unescape rest
      | _, _ => percent :: unescape (high :: low :: rest)
  | b :: rest => b :: unescape rest

def pieceText (piece : List UInt8) : String := String.ofList (Utf8.decodeLossy (unescape piece))

/-- The pieces of a byte string between the bytes `mark`. -/
def splitAll (mark : UInt8) (bytes : List UInt8) : List (List UInt8) :=
  bytes.foldr
    (fun b pieces =>
      match pieces with
      | piece :: rest => if b = mark then [] :: piece :: rest else (b :: piece) :: rest
      | [] => [])
    [[]]

/-- The part of a byte string before the first `mark` and the part after it. -/
def splitFirst (mark : UInt8) (bytes : List UInt8) : List UInt8 × List UInt8 :=
  (bytes.takeWhile (· != mark), (bytes.dropWhile (· != mark)).drop 1)

/-- The options of an address: names and values. An option without a name does not count. -/
def options (bytes : List UInt8) : List (String × String) :=
  ((splitAll (ascii '&') bytes).map fun piece =>
    let (name, value) := splitFirst (ascii '=') piece
    (pieceText name, pieceText value)).filter (·.1 != "")

/-- What is taken from the host before the path: none, or this machine. -/
def afterHost (bytes : List UInt8) : Except DatabaseFault (List UInt8) :=
  match bytes with
  | a :: b :: rest =>
      if a = ascii '/' ∧ b = ascii '/' then
        let host := String.ofList (Utf8.decodeLossy (rest.takeWhile (· != ascii '/')))
        if host == "" || host == "localhost" then .ok (rest.dropWhile (· != ascii '/'))
        else .error (.unknownHost host)
      else .ok bytes
  | _ => .ok bytes

inductive Mode where
  | access (access : Access)
  | memory
deriving DecidableEq, Repr

def Mode.ofName? : String → Option Mode
  | "ro" => some (.access .read)
  | "rw" => some (.access .change)
  | "rwc" => some (.access .create)
  | "memory" => some .memory
  | _ => none

/-- A mode may follow another one unless it allows more. After the mode of memory all may follow. -/
def Mode.mayFollow : (earlier later : Mode) → Bool
  | _, .memory => true
  | .memory, _ => true
  | .access .create, _ => true
  | .access .change, .access later => later != .create
  | .access .read, .access later => later == .read

/-- What the options say together. The later of two counts. -/
structure Choice where
  mode : Mode := .access .create
  shared : Bool := false
  system : String := "unix"

def Choice.take (choice : Choice) : String × String → Except DatabaseFault Choice
  | ("vfs", value) => .ok { choice with system := value }
  | ("cache", value) =>
      if value == "shared" then .ok { choice with shared := true }
      else if value == "private" then .ok { choice with shared := false }
      else .error (.unknownMode "cache" value)
  | ("mode", value) =>
      match Mode.ofName? value with
      | none => .error (.unknownMode "access" value)
      | some mode =>
          if choice.mode.mayFollow mode then .ok { choice with mode }
          else .error (.modeForbidden value)
  | _ => .ok choice

/-- The systems by which files can be reached. -/
def systems : List String := ["unix", "unix-none", "unix-dotfile", "unix-excl", "memdb"]

/-- The value of a text as a switch: a number other than zero modulo 256, or a word for yes. -/
def isOn (value : String) : Bool :=
  match value.toList with
  | [] => false
  | c :: rest =>
      if c.isDigit then
        let digits := (c :: rest).takeWhile Char.isDigit
        let n := Digits.value digits
        n < 2147483648 && n % 256 != 0
      else
        ["yes", "true", "on"].contains (String.ofList ((c :: rest).map Char.toLower))

/-- The switch with a name is on. The first option with the name counts. -/
def hasSwitch (options : List (String × String)) (name : String) : Bool :=
  match options.lookup name with
  | some value => isOn value
  | none => false

/-- How the files of a system are changed. -/
def mannerOf (system : String) (options : List (String × String)) : Manner :=
  if hasSwitch options "immutable" then .frozen
  else if system == "unix-none" || system == "unix-dotfile" || hasSwitch options "nolock" then .direct
  else if system == "unix-excl" then .loggedAlone
  else .logged

def ofParts (path : String) (options : List (String × String)) : Except DatabaseFault Address := do
  let choice ← options.foldlM Choice.take {}
  if !systems.contains choice.system then .error (.unknownSystem choice.system)
  else
    let access := match choice.mode with
      | .access access => access
      | .memory => .create
    let site : Site :=
      if path == "" then .memory none
      else if path == ":memory:" || choice.mode == .memory then
        .memory (if choice.shared then some path else none)
      else if choice.system == "memdb" then
        .memory (if path.toList.head? == some '/' then some path else none)
      else .file path
    return ⟨site, access, mannerOf choice.system options⟩

def ofUri (bytes : List UInt8) : Except DatabaseFault Address := do
  let rest ← afterHost bytes
  let (path, query) := splitFirst (ascii '?') (splitFirst (ascii '#') rest).1
  ofParts (pieceText path) (options query)

def ofPath (path : String) : Except DatabaseFault Address :=
  let bytes := Utf8.encode path.toList
  match bytes.findIdx? (· == 0) with
  | some position => .error (.zeroInPath position)
  | none =>
      if path == "" || path == ":memory:" then .ok ⟨.memory none, .create, .logged⟩
      else if (Utf8.encode "file:".toList).isPrefixOf bytes then ofUri (bytes.drop 5)
      else .ok ⟨.file path, .create, .logged⟩

/-- The path of the file of the database that a path stands for, unless it is in memory. -/
def filePath? (path : String) : Option String :=
  match ofPath path with
  | .ok ⟨.file filePath, _, _⟩ => some filePath
  | _ => none

end Address

end Daybook
