namespace Daybook

/-- The names that lead to an entry of the disk from the root. -/
abbrev Place := List String

/-- The place of a file whose name is that of the file at another place with something added. -/
def Place.beside (place : Place) (suffix : String) : Place :=
  match place.getLast? with
  | some name => place.dropLast ++ [name ++ suffix]
  | none => place

namespace Path

/-- Cuts a text at its slashes. `current` is the part that is being read, the latest first, and `done`
the parts before it, the latest first. -/
def cut (done : List String) (current : List Char) : List Char → List String
  | [] => (String.ofList current.reverse :: done).reverse
  | c :: rest =>
      if c = '/' then cut (String.ofList current.reverse :: done) [] rest
      else cut done (c :: current) rest

/-- The texts between the slashes of a path, also the empty ones. -/
def parts (path : String) : List String := cut [] [] path.toList

def isAbsolute (path : String) : Bool := path.toList.head? == some '/'

/-- A part that leads nowhere else. -/
def isIdle (part : String) : Bool := part == "" || part == "."

/-- The parts of a path that lead somewhere. -/
def steps (path : String) : List String := (parts path).filter (!isIdle ·)

/-- The path `part` as seen from `base`. A slash is added only where there is none. -/
def join (base part : String) : String :=
  if isAbsolute part then part
  else if base == "" || base.toList.getLast? == some '/' then base ++ part
  else base ++ "/" ++ part

/-- The name at the end of a path, or nothing when its last step goes up or there is none. -/
def fileName (path : String) : String :=
  match (steps path).getLast? with
  | some step => if step == ".." then "" else step
  | none => ""

/-- The path without its last step, unless it has none. -/
def parent? (path : String) : Option String :=
  match steps path with
  | [] => none
  | step :: rest =>
      some ((if isAbsolute path then "/" else "") ++
        String.intercalate "/" (step :: rest).dropLast)

end Path

end Daybook
