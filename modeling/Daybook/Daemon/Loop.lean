import Daybook.Daemon.Report

namespace Daybook

/-- What is done to an output: bytes are written to it, or it is told to pass on what it holds. -/
inductive Delivery where
  | write (bytes : List UInt8)
  | flush
deriving DecidableEq, Repr

/-- How an answer is delivered. -/
def Response.deliveries (r : Response) : List Delivery := [.write r.bytes, .flush]

/-- How far an input has been served: the disk, the answers written, what was done to the output, the
number of frames answered and how many of the answers were failures, and whether the output has refused
an answer. -/
structure Service where
  disk : Disk
  written : List Response
  output : List Delivery
  requests : Nat
  failures : Nat
  broken : Bool

namespace Service

def start (disk : Disk) : Service := ⟨disk, [], [], 0, 0, false⟩

/-- Answers the next frame of an input, unless it is at its end, and counts the answer. What is
answered may depend on how many frames were answered before. -/
def next? (limit : Nat) (answer : Nat → Frame → Disk → Response × Disk) (done : Service)
    (source : Source) : Option (Response × Service × Source) :=
  match Frame.next? limit source with
  | none => none
  | some (frame, rest) =>
      let (response, disk) := answer done.requests frame done.disk
      let failures := if response.isSuccess then done.failures else done.failures + 1
      some (response, { done with disk, requests := done.requests + 1, failures }, rest)

/-- Delivers an answer. What was written and done last comes first. -/
def deliver (done : Service) (response : Response) : Service :=
  { done with
    written := response :: done.written
    output := response.deliveries.reverse ++ done.output }

theorem size_next?_lt {limit : Nat} {answer : Nat → Frame → Disk → Response × Disk}
    {done after : Service} {source rest : Source} {response : Response}
    (h : done.next? limit answer source = some (response, after, rest)) :
    rest.size < source.size := by
  unfold next? at h
  split at h
  · cases h
  · cases h
    exact Frame.size_next?_lt ‹_›

/-- Answers the frames of an input one by one. `limit` is the greatest length of a line, `room` the
number of answers that the output still takes, where it has a limit, and `done` what has been served. -/
def serveFrom (limit : Nat) (answer : Nat → Frame → Disk → Response × Disk) (room : Option Nat)
    (done : Service) (source : Source) : Service :=
  match _h : done.next? limit answer source with
  | none => done
  | some (response, answered, rest) =>
      match room with
      | some 0 => { answered with broken := true }
      | some (room + 1) => serveFrom limit answer (some room) (answered.deliver response) rest
      | none => serveFrom limit answer none (answered.deliver response) rest
termination_by source.size
decreasing_by all_goals exact size_next?_lt ‹_›

/-- Serves an input. The answers are in the order of the frames. -/
def serve (limit : Nat) (answer : Nat → Frame → Disk → Response × Disk) (room : Option Nat)
    (source : Source) (disk : Disk) : Service :=
  let service := serveFrom limit answer room (.start disk) source
  { service with written := service.written.reverse, output := service.output.reverse }

end Service

/-- Serves an input. The frame after the first `n` is answered at the time `times n`. -/
def Daemon.serve (daemon : Daemon) (log : Option MessageLog) (times : Nat → Instant)
    (room : Option Nat) (source : Source) (disk : Disk) : Service :=
  Service.serve daemon.config.maxLineBytes (fun n => daemon.respond log (times n)) room source disk

end Daybook
