import Daybook.Text.Digits

namespace Daybook

/-- A failure of the file system. -/
inductive FileFault where
  | notFound
  | exists
  | notDirectory
  | isDirectory
  | nameTooLong
  | zeroInName
  | notText
  | other (text : String)
deriving DecidableEq, Repr

def FileFault.message : FileFault → String
  | .notFound => "No such file or directory (os error 2)"
  | .exists => "File exists (os error 17)"
  | .notDirectory => "Not a directory (os error 20)"
  | .isDirectory => "Is a directory (os error 21)"
  | .nameTooLong => "File name too long (os error 36)"
  | .zeroInName => "file name contained an unexpected NUL byte"
  | .notText => "stream did not contain valid UTF-8"
  | .other text => text

/-- A text in a table that does not stand for a value of its column. -/
inductive Corruption where
  | value (text column : String)
  | timestamp (text column : String)
deriving DecidableEq, Repr

def Corruption.message : Corruption → String
  | .value text column => "invalid value '" ++ text ++ "' in column '" ++ column ++ "'"
  | .timestamp text column => "invalid timestamp '" ++ text ++ "' in column '" ++ column ++ "'"

/-- A failure of a database. It cannot be opened because of its own file, which is named then, or of
a file beside it. -/
inductive DatabaseFault where
  | cannotOpen (path : Option String)
  | notDatabase
  | damaged
  | diskFault
  | readOnly
  | locked
  | zeroInPath (position : Nat)
  | unknownHost (host : String)
  | unknownSystem (name : String)
  | unknownMode (option value : String)
  | modeForbidden (value : String)
  | missingTable (name : String)
  | conditionFailed (condition : String)
  | nullForbidden (column : String)
  | unreadable (corruption : Corruption)
deriving DecidableEq, Repr

def DatabaseFault.message : DatabaseFault → String
  | .cannotOpen none => "unable to open database file"
  | .cannotOpen (some path) => "unable to open database file: " ++ path
  | .notDatabase => "file is not a database"
  | .damaged => "database disk image is malformed"
  | .diskFault => "disk I/O error"
  | .readOnly => "attempt to write a readonly database"
  | .locked => "database is locked"
  | .zeroInPath position =>
      "nul byte found in provided data at position: " ++ String.ofList (Digits.decimal position)
  | .unknownHost host => "invalid uri authority: " ++ host
  | .unknownSystem name => "no such vfs: " ++ name
  | .unknownMode option value => "no such " ++ option ++ " mode: " ++ value
  | .modeForbidden value => "access mode not allowed: " ++ value
  | .missingTable name => "no such table: " ++ name
  | .conditionFailed condition => "CHECK constraint failed: " ++ condition
  | .nullForbidden column => "NOT NULL constraint failed: " ++ column
  | .unreadable corruption =>
      "Conversion error from type Text at index: 0, corrupted data: " ++ corruption.message

/-- Why an operation failed. -/
inductive Error where
  | emptyTitle
  | invalidOffset (minutes : Int)
  | taskNotFound (id : Int)
  | reminderNotFound (id : Int)
  | invalidPriority (text : String)
  | invalidStatus (text : String)
  | invalidTransition (source target : String)
  | database (fault : DatabaseFault)
  | file (fault : FileFault)
  | config
  | corruptedData (text : String)
deriving DecidableEq, Repr

namespace Error

def numberText (n : Int) : String := String.ofList (Digits.integer n)

/-- The wording of an error. A fault of the config file has no wording of its own. -/
def message : Error → String
  | emptyTitle => "task title must not be empty"
  | invalidOffset minutes =>
      "invalid reminder offset: " ++ numberText minutes ++
        " minutes\n  hint: offset must be zero or a positive number of minutes"
  | taskNotFound id => "task not found: " ++ numberText id
  | reminderNotFound id => "reminder not found: " ++ numberText id
  | invalidPriority text =>
      "invalid priority: '" ++ text ++ "'\n  hint: valid priorities are: low, medium, high"
  | invalidStatus text => "invalid status: '" ++ text ++ "'"
  | invalidTransition source target =>
      "invalid status transition: cannot go from " ++ source ++ " to " ++ target
  | database fault => "database error: " ++ fault.message
  | file fault => "io error: " ++ fault.message
  | config => "invalid config"
  | corruptedData text => "corrupted data: " ++ text

/-- The error comes from the storage and not from the caller. -/
def isStorage : Error → Bool
  | database _ | file _ | config | corruptedData _ => true
  | _ => false

def isNotFound : Error → Bool
  | taskNotFound _ | reminderNotFound _ => true
  | _ => false

end Error

end Daybook
