import Daybook.Daemon.Loop
import Daybook.Proofs.Daemon.Failure
import Daybook.Proofs.Json.Rendering
import Daybook.Proofs.Play
import Daybook.Proofs.Wire.Framing

namespace Daybook

/-- The bytes that an output receives. -/
def Delivery.content : Delivery → List UInt8
  | .write bytes => bytes
  | .flush => []

namespace Response

theorem feed_not_mem_line (r : Response) : '\n' ∉ r.line := Json.feed_not_mem_render _

theorem bytes_eq (r : Response) : r.bytes = Utf8.encode r.line ++ [lineFeed] := Utf8.encode_append _ _

theorem toJson_eq (r : Response) :
    ∃ members, r.toJson = .obj (("success", .bool r.isSuccess) :: members) := by
  cases r with
  | success payload => exact ⟨_, rfl⟩
  | failure f => exact ⟨_, rfl⟩

theorem linesOf_bytes (responses : List Response) :
    linesOf (responses.flatMap bytes) =
      responses.map fun r => ⟨Utf8.encode r.line, true⟩ := by
  induction responses with
  | nil => rfl
  | cons r responses ih =>
      rw [List.flatMap_cons, bytes_eq, List.append_assoc, List.singleton_append,
        linesOf_encode_feed r.feed_not_mem_line, ih, List.map_cons]

theorem flatMap_content_deliveries (responses : List Response) :
    (responses.flatMap deliveries).flatMap Delivery.content = responses.flatMap bytes := by
  rw [List.flatMap_assoc]
  simp only [deliveries, List.flatMap_cons, List.flatMap_nil, Delivery.content, List.append_nil]

theorem count_flush_deliveries (responses : List Response) :
    (responses.flatMap deliveries).count .flush = responses.length := by
  induction responses with
  | nil => rfl
  | cons r responses ih =>
      rw [List.flatMap_cons, List.count_append, ih, List.length_cons, Nat.add_comm]
      rfl

end Response

namespace Service

/-- The bytes that an output has received. -/
def received (s : Service) : List UInt8 := s.output.flatMap Delivery.content

/-- One service and then another, which goes on with the disk that the first has left. -/
def andThen (earlier later : Service) : Service where
  disk := later.disk
  written := earlier.written ++ later.written
  output := earlier.output ++ later.output
  requests := earlier.requests + later.requests
  failures := earlier.failures + later.failures
  broken := earlier.broken || later.broken

theorem andThen_assoc (first second third : Service) :
    (first.andThen second).andThen third = first.andThen (second.andThen third) := by
  simp only [andThen, List.append_assoc, Nat.add_assoc, Bool.or_assoc]

/-- A service with its answers the other way round. -/
def reversed (s : Service) : Service :=
  { s with written := s.written.reverse, output := s.output.reverse }

section

variable (limit : Nat) (answer : Nat → Frame → Disk → Response × Disk)

/-- Answers a line that stands behind a number of others. -/
def step (disk : Disk) (line : Line × Nat) : Response × Disk :=
  answer line.2 (line.1.frame limit) disk

/-- Lines that were answered one after the other, behind `n` others. -/
def ofLines (n : Nat) (lines : List Line) (disk : Disk) : Service where
  disk := (play (step limit answer) disk (lines.zipIdx n)).2
  written := (play (step limit answer) disk (lines.zipIdx n)).1
  output := (play (step limit answer) disk (lines.zipIdx n)).1.flatMap Response.deliveries
  requests := lines.length
  failures := (play (step limit answer) disk (lines.zipIdx n)).1.countP fun r => !r.isSuccess
  broken := false

theorem ofLines_append (n : Nat) (earlier later : List Line) (disk : Disk) :
    ofLines limit answer n (earlier ++ later) disk =
      (ofLines limit answer n earlier disk).andThen
        (ofLines limit answer (n + earlier.length) later
          (ofLines limit answer n earlier disk).disk) := by
  simp only [ofLines, andThen, List.zipIdx_append, play_append, List.length_append,
    List.countP_append, List.flatMap_append, Bool.or_self]

theorem andThen_ofLines_nil (n : Nat) (s : Service) :
    s.andThen (ofLines limit answer n [] s.disk) = s := by
  simp [andThen, ofLines, play]

theorem ofLines_cons (n : Nat) (line : Line) (lines : List Line) (disk : Disk) :
    ofLines limit answer n (line :: lines) disk =
      (ofLines limit answer n [line] disk).andThen
        (ofLines limit answer (n + 1) lines (step limit answer disk (line, n)).2) :=
  ofLines_append limit answer n [line] lines disk

/-- Lines behind `n` others are the first ones for what counts from there on. -/
theorem ofLines_add (n : Nat) (lines : List Line) (disk : Disk) :
    ofLines limit (fun k => answer (k + n)) 0 lines disk = ofLines limit answer n lines disk := by
  have hplay : play (step limit fun k => answer (k + n)) disk lines.zipIdx =
      play (step limit answer) disk (lines.zipIdx n) := by
    rw [← Nat.add_zero n, ← List.map_snd_add_zipIdx_eq_zipIdx, play_map]
    rfl
  rw [ofLines, ofLines, hplay]

/-- A service after one more line, of which the answer is not delivered. -/
def counted (done : Service) (line : Line) : Service :=
  { done with
    disk := (step limit answer done.disk (line, done.requests)).2
    requests := done.requests + 1
    failures :=
      if (step limit answer done.disk (line, done.requests)).1.isSuccess then done.failures
      else done.failures + 1 }

/-- A service after one more line. -/
def answered (done : Service) (line : Line) : Service :=
  (done.counted limit answer line).deliver (step limit answer done.disk (line, done.requests)).1

theorem reversed_counted {done : Service} (line : Line) :
    ({ done.counted limit answer line with broken := true } : Service).reversed =
      done.reversed.andThen
        { ofLines limit answer done.requests [line] done.disk with
          written := [], output := [], broken := true } := by
  simp only [counted, reversed, andThen, ofLines, play, List.zipIdx_cons, List.zipIdx_nil,
    List.append_nil, Bool.or_true]
  cases hsuccess : (step limit answer done.disk (line, done.requests)).1.isSuccess <;>
    simp [hsuccess]

theorem reversed_answered {done : Service} (hdone : done.broken = false) (line : Line) :
    (done.answered limit answer line).reversed =
      done.reversed.andThen (ofLines limit answer done.requests [line] done.disk) := by
  simp only [answered, deliver, counted, reversed, andThen, ofLines, play, List.zipIdx_cons,
    List.zipIdx_nil, hdone, List.reverse_cons, List.reverse_append, List.reverse_reverse]
  cases hsuccess : (step limit answer done.disk (line, done.requests)).1.isSuccess <;>
    simp [hsuccess]

variable {limit} in
theorem serveFrom_of_none {source : Source} (h : Frame.next? limit source = none)
    (room : Option Nat) (done : Service) : serveFrom limit answer room done source = done := by
  have hnext : done.next? limit answer source = none := by rw [next?, h]
  rw [serveFrom]
  split
  · rfl
  · rename_i hsome
    cases hnext.symm.trans hsome

variable {limit} in
theorem serveFrom_of_some {source later : Source} {line : Line}
    (h : Frame.next? limit source = some (line.frame limit, later)) (room : Option Nat)
    (done : Service) :
    serveFrom limit answer room done source =
      match room with
      | some 0 => { done.counted limit answer line with broken := true }
      | some (room + 1) =>
          serveFrom limit answer (some room) (done.answered limit answer line) later
      | none => serveFrom limit answer none (done.answered limit answer line) later := by
  have hnext : done.next? limit answer source =
      some ((step limit answer done.disk (line, done.requests)).1,
        done.counted limit answer line, later) := by rw [next?, h]; rfl
  rw [serveFrom]
  split
  · rename_i hnone
    cases hnext.symm.trans hnone
  · rename_i hsome
    cases hnext.symm.trans hsome
    rfl

theorem serveFrom_eq {done : Service} (hdone : done.broken = false) (source : Source) :
    (serveFrom limit answer none done source).reversed =
      done.reversed.andThen
        (ofLines limit answer done.requests (linesOf source.flatten) done.disk) := by
  induction hsize : source.size using Nat.strongRecOn generalizing source done with
  | ind size ih =>
      subst hsize
      rcases Frame.next?_cases limit source with ⟨hnone, hnil⟩ | ⟨line, later, hsome, -, hlines⟩
      · rw [serveFrom_of_none answer hnone, hnil]
        exact (andThen_ofLines_nil limit answer _ done.reversed).symm
      · have hnext : (done.answered limit answer line).broken = false := hdone
        rw [serveFrom_of_some answer hsome]
        dsimp only
        rw [ih later.size (Frame.size_next?_lt hsome) hnext later rfl, hlines,
          reversed_answered limit answer hdone, andThen_assoc,
          ofLines_cons limit answer _ line (linesOf later.flatten)]
        rfl

theorem serve_eq_reversed (room : Option Nat) (source : Source) (disk : Disk) :
    serve limit answer room source disk =
      (serveFrom limit answer room (.start disk) source).reversed := rfl

theorem andThen_start (disk : Disk) (s : Service) : (start disk).reversed.andThen s = s := by
  simp [andThen, reversed, start]

theorem serve_eq (source : Source) (disk : Disk) :
    serve limit answer none source disk = ofLines limit answer 0 (linesOf source.flatten) disk := by
  rw [serve_eq_reversed, serveFrom_eq limit answer rfl, andThen_start]
  rfl

end

end Service

namespace Daemon

/-- An input is served to its end, however it arrives. Each of its lines is answered by one line, a
JSON object, as it would be at its time and on the disk that the lines before it have left, and is
counted; the answer is written and flushed before the next line is read. An input that is cut after a
line is served as its two parts are served one after the other. -/
theorem serve_answers_lines (daemon : Daemon) (log : Option MessageLog) (times : Nat → Instant)
    (source : Source) (disk : Disk) :
    let lines := linesOf source.flatten
    let served := daemon.serve log times none source disk
    let step := fun (disk : Disk) (line : Line × Nat) =>
      daemon.respond log (times line.2) (line.1.frame daemon.config.maxLineBytes) disk
    (served.broken = false ∧ served.requests = lines.length ∧
        served.written.length = lines.length ∧
        served.failures = served.written.countP fun r => !r.isSuccess) ∧
      served.disk = (play step disk lines.zipIdx).2 ∧
      (∀ k line, lines[k]? = some line →
        served.written[k]? =
          some (step (play step disk (lines.zipIdx.take k)).2 (line, k)).1) ∧
      (served.output = served.written.flatMap Response.deliveries ∧
        served.output.count .flush = lines.length ∧
        linesOf served.received = served.written.map fun r => ⟨Utf8.encode r.line, true⟩) ∧
      (∀ r ∈ served.written, ∃ members,
        r.line = (Json.obj (("success", .bool r.isSuccess) :: members)).render) ∧
      ∀ earlier later : Source,
        earlier.flatten = [] ∨ earlier.flatten.getLast? = some lineFeed →
        source.flatten = earlier.flatten ++ later.flatten →
          let first := daemon.serve log times none earlier disk
          served = first.andThen
            (daemon.serve log (fun n => times (n + first.requests)) none later first.disk) := by
  intro lines served step
  let answer : Nat → Frame → Disk → Response × Disk := fun n => daemon.respond log (times n)
  have hserved : served = Service.ofLines daemon.config.maxLineBytes answer 0 lines disk :=
    Service.serve_eq _ _ source disk
  have hwritten : served.written = (play step disk lines.zipIdx).1 := by rw [hserved]; rfl
  have houtput : served.output = served.written.flatMap Response.deliveries := by rw [hserved]; rfl
  have hlength : served.written.length = lines.length := by
    rw [hwritten, length_play, List.length_zipIdx]
  have hcounted : served.broken = false ∧ served.requests = lines.length ∧
      served.failures = (served.written.countP fun r => !r.isSuccess) ∧
      served.disk = (play step disk lines.zipIdx).2 := by
    rw [hserved]
    exact ⟨rfl, rfl, rfl, rfl⟩
  obtain ⟨hbroken, hrequests, hfailures, hdisk⟩ := hcounted
  refine ⟨⟨hbroken, hrequests, hlength, hfailures⟩, hdisk, ?_, ⟨houtput, ?_, ?_⟩, ?_, ?_⟩
  · intro k line hline
    have hindexed : lines.zipIdx[k]? = some (line, k) := by simp [List.getElem?_zipIdx, hline]
    rw [hwritten, getElem?_play step disk hindexed]
  · rw [houtput, Response.count_flush_deliveries, hlength]
  · rw [Service.received, houtput, Response.flatMap_content_deliveries, Response.linesOf_bytes]
  · intro r _
    obtain ⟨members, hmembers⟩ := r.toJson_eq
    exact ⟨members, by rw [Response.line, hmembers]⟩
  · intro earlier later hend hsource first
    have hlines : lines = linesOf earlier.flatten ++ linesOf later.flatten := by
      rw [← linesOf_append hend, ← hsource]
    have hfirst : first =
        Service.ofLines daemon.config.maxLineBytes answer 0 (linesOf earlier.flatten) disk :=
      Service.serve_eq _ _ earlier disk
    have hsecond : daemon.serve log (fun n => times (n + first.requests)) none later first.disk =
        Service.ofLines daemon.config.maxLineBytes answer first.requests (linesOf later.flatten)
          first.disk :=
      (Service.serve_eq _ _ later first.disk).trans (Service.ofLines_add _ answer _ _ _)
    rw [hsecond, hserved, hlines, Service.ofLines_append, hfirst, Nat.zero_add]
    rfl

/-- A line that is no request, in two pieces. -/
def firstPieces : Source := [[110, 111], [13, 10]]

/-- A request without a terminator, in two pieces. -/
def lastPieces : Source := [[123], Utf8.encode "\"method\":\"list_tasks\"\x7d".toList]

/-- The first line comes at the epoch, the others at noon. -/
def morning : Nat → Instant
  | 0 => .epoch
  | _ => .noon

theorem serve_firstPieces_lastPieces :
    let lines := linesOf (firstPieces ++ lastPieces).flatten
    let served := newDaemon.serve none morning none (firstPieces ++ lastPieces) newDisk
    let step := fun (disk : Disk) (line : Line × Nat) =>
      newDaemon.respond none (morning line.2) (line.1.frame newConfig.maxLineBytes) disk
    let request := Line.mk (Utf8.encode "\x7b\"method\":\"list_tasks\"\x7d".toList) false
    let first := newDaemon.serve none morning none firstPieces newDisk
    lines[1]? = some request ∧
      served.written[1]? =
        some (step (play step newDisk (lines.zipIdx.take 1)).2 (request, 1)).1 ∧
      firstPieces.flatten.getLast? = some lineFeed ∧
      served = first.andThen (newDaemon.serve none (fun n => morning (n + first.requests)) none
        lastPieces first.disk) := by
  obtain ⟨-, -, hanswer, -, -, hsplit⟩ :=
    serve_answers_lines newDaemon none morning (firstPieces ++ lastPieces) newDisk
  exact ⟨by decide, hanswer 1 _ (by decide), by decide,
    hsplit firstPieces lastPieces (.inr (by decide)) List.flatten_append⟩

end Daemon

end Daybook
