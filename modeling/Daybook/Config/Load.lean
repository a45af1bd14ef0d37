import Daybook.Config.Document
import Daybook.Disk.Basic
import Daybook.Text.Utf8

namespace Daybook.Config

def fileName : String := "config.toml"

def load (stateDir : String) (disk : Disk) : Except Error Config :=
  let path := Path.join stateDir fileName
  let base : Config := { stateDir }
  if disk.isThere path then
    match disk.read path with
    | .error fault => .error (.file fault)
    | .ok bytes =>
        match Utf8.decode? bytes with
        | none => .error (.file .notText)
        | some text =>
            match Document.config? base text with
            | some config => .ok config
            | none => .error .config
  else .ok base

end Daybook.Config
