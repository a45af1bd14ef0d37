import Daybook.Config.Load
import Daybook.Daemon.Loop
import Daybook.Daemon.Report

namespace Daybook.CommandLine

/-- The environment variables that are set. -/
abbrev Environment := List (String × String)

def valueOf? (env : Environment) (name : String) : Option String :=
  (env.lookup name).filter (· != "")

/-- The argument after the first one that asks for a state directory. -/
def stateDirArgument? : List String → Option String
  | [] => none
  | arg :: rest => if arg == "--state-dir" then rest.head? else stateDirArgument? rest

/-- The state directory: from the arguments, else from the environment, else below the home
directory. -/
def stateDir (args : List String) (env : Environment) : String :=
  match stateDirArgument? args with
  | some dir => dir
  | none =>
      match valueOf? env "EXECD_STATE_DIR" with
      | some dir => dir
      | none =>
          match valueOf? env "XDG_STATE_HOME" with
          | some dir => Path.join dir "execd"
          | none => Path.join ((valueOf? env "HOME").getD "") ".local/state/execd"

/-- The name of the file for messages in the state directory. -/
def logName : String := "execd.log"

/-- How a run ended: its exit code, the answers written, the message for the standard error if there
is one, and the disk. -/
structure Result where
  exitCode : Nat
  written : List Response
  complaint : Option String
  disk : Disk

def Result.fatal (message : String) (disk : Disk) : Result :=
  ⟨1, [], some ("execd: " ++ message), disk⟩

/-- The part of the program that messages about its start come from. -/
def origin : String := "execd"

/-- A daemon that was started, and the log it reports to. -/
structure Started where
  daemon : Daemon
  log : MessageLog
deriving DecidableEq, Repr

/-- Opens a daemon on a state directory. The file for messages is made before the configuration is
read; that it cannot be made does not matter. -/
def start (dir : String) (env : Environment) (now : Instant) (disk : Disk) :
    Except String Started × Disk :=
  match disk.makeDirectories dir with
  | (.error fault, disk) => (.error ("cannot create " ++ dir ++ ": " ++ fault.message), disk)
  | (.ok (), disk) =>
      let log : MessageLog := ⟨Path.join dir logName, .ofSetting (env.lookup "RUST_LOG")⟩
      let disk := (disk.append log.path []).toOption.getD disk
      let disk := log.add now [⟨.info, origin, "execd starting, state_dir=" ++ dir⟩] disk
      let fail (message : String) (disk : Disk) : Except String Started × Disk :=
        (.error message, log.add now [⟨.error, origin, message⟩] disk)
      match Config.load dir disk with
      | .error e => fail ("failed to load config: " ++ e.message) disk
      | .ok config =>
          match Store.openAt config disk with
          | (.error e, disk) => fail ("failed to open store: " ++ e.message) disk
          | (.ok store, disk) =>
              let names := Method.all.map fun m => String.ofList (Shown.showText m.name.toList)
              let disk := log.add now
                [⟨.info, Daemon.storeOrigin, "store opened state_dir=" ++ dir⟩,
                  ⟨.debug, origin,
                    "registry ready methods=[" ++ String.intercalate ", " names ++ "]"⟩] disk
              (.ok ⟨⟨config, store⟩, log⟩, disk)

/-- The end of a daemon that has served its input. -/
def stop (started : Started) (now : Instant) (service : Service) : Disk :=
  let text := "end of input, execd stopped requests=" ++ Error.numberText service.requests ++
    " failures=" ++ Error.numberText service.failures
  started.daemon.store.close (started.log.add now [⟨.info, origin, text⟩] service.disk)

/-- Runs the program. It starts at the time `times 0`; each request has the next time, and so has the
end. -/
def run (args : List String) (env : Environment) (times : Nat → Instant) (input : Source)
    (disk : Disk) : Result :=
  match start (stateDir args env) env (times 0) disk with
  | (.error message, disk) => .fatal message disk
  | (.ok started, disk) =>
      let service := started.daemon.serve started.log (fun n => times (n + 1)) none input disk
      ⟨0, service.written, none, stop started (times (service.requests + 1)) service⟩

end Daybook.CommandLine
