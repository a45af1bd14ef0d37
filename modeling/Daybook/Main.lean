import Daybook.CommandLine
import Daybook.Disk.Image
import Std.Time.DateTime.Timestamp

namespace Daybook.Machine

def now : IO Instant := do
  let nanos := (← Std.Time.Timestamp.now).toNanosecondsSinceUnixEpoch.val
  match Instant.ofParts? (nanos / nanosPerSecond) (nanos % nanosPerSecond).toNat with
  | some t => return t
  | none => throw (IO.userError "the clock is out of range")

/-- A directory of the machine stands at a path. -/
def isDirectory (path : String) : IO Bool := do
  try
    return ← (← IO.FS.realPath path).isDir
  catch _ => return false

/-- The paths that begin a path, the shortest first. -/
def beginnings (path : String) : List String :=
  let start := if Path.isAbsolute path then "/" else ""
  let steps := Path.steps path
  (List.range steps.length).map fun n => start ++ String.intercalate "/" (steps.take (n + 1))

/-- Brings what stands at a path onto the disk. -/
def loadEntry (keepsDatabase : Bool) (disk : Disk) (path : String) : IO Disk := do
  if ← isDirectory path then return (disk.makeDirectory path).toOption.getD disk
  match disk.resolve path with
  | .error _ => return disk
  | .ok target =>
      try
        let bytes := (← IO.FS.readBinFile path).toList
        return disk.putImage target.place keepsDatabase bytes
      catch _ => return disk

/-- Brings what stands at a path onto the disk, and before it the directories it is in. -/
def load (keepsDatabase : Bool) (disk : Disk) (path : String) : IO Disk :=
  (beginnings path).foldlM (loadEntry keepsDatabase) disk

/-- Writes back what has changed at a path. At a file that has grown only what is new is added. -/
def save (before after : Disk) (path : String) : IO Unit := do
  let was := (before.lookup path).toOption
  match (after.lookup path).toOption with
  | none => return
  | some .directory => if was != some .directory then IO.FS.createDirAll path
  | some entry =>
      let old := was.bind before.image?
      let new := after.image? entry
      if new == old then return
      match was, entry, new with
      | some (.file old), .file _, some new =>
          let file ← IO.FS.Handle.mk path .append
          file.write (new.drop old.length).toByteArray
          file.flush
      | _, _, some new => IO.FS.writeBinFile path new.toByteArray
      | _, _, none => return

/-- Reads the bytes of a line with its line feed, or what is left of the input. -/
partial def readLine (input : IO.FS.Stream) (line : List UInt8) : IO (List UInt8) := do
  match (← input.read 1).toList with
  | [b] => if b = lineFeed then return (b :: line).reverse else readLine input (b :: line)
  | _ => return line.reverse

def perform (output : IO.FS.Stream) : Delivery → IO Unit
  | .write bytes => output.write bytes.toByteArray
  | .flush => output.flush

/-- Answers the lines of the input. What has been written is not kept. -/
partial def serve (started : CommandLine.Started) (paths : List String) (done : Service)
    (input output : IO.FS.Stream) : IO Service := do
  let line ← readLine input []
  let time ← now
  let answer := fun _ => started.daemon.respond started.log time
  match done.next? started.daemon.config.maxLineBytes answer [line] with
  | none => return done
  | some (response, answered, _) =>
      paths.forM (save done.disk answered.disk)
      response.deliveries.forM (perform output)
      serve started paths answered input output

def environment : IO CommandLine.Environment := do
  let names := ["EXECD_STATE_DIR", "XDG_STATE_HOME", "HOME", "RUST_LOG"]
  let values ← names.mapM fun name => return (name, ← IO.getEnv name)
  return values.filterMap fun (name, value) => value.map (name, ·)

/-- Runs the program and returns its exit code. -/
def run (args : List String) : IO UInt32 := do
  let env ← environment
  let dir := CommandLine.stateDir args env
  let configPath := Path.join dir Config.fileName
  let logPath := Path.join dir CommandLine.logName
  let machine ← load false (← load false .empty configPath) logPath
  let config := ((Config.load dir machine).toOption).getD { stateDir := dir }
  let machine ← load false machine config.notesPath
  let databases := [config.tasksPath, config.remindersPath]
  let machine ← (databases.filterMap Address.filePath?).foldlM (load true) machine
  let (started, disk) := CommandLine.start dir env (← now) machine
  let paths := logPath :: config.notesPath :: databases.filterMap Address.filePath?
  let directories := (dir :: (paths ++ databases).filterMap Path.parent?).flatMap beginnings
  (directories ++ paths).forM (save machine disk)
  match started with
  | .error message => do
      (← IO.getStderr).putStrLn ("execd: " ++ message)
      return 1
  | .ok started => do
      let service ← serve started paths (.start disk) (← IO.getStdin) (← IO.getStdout)
      paths.forM (save service.disk (CommandLine.stop started (← now) service))
      return 0

end Daybook.Machine

def main (args : List String) : IO UInt32 := Daybook.Machine.run args
