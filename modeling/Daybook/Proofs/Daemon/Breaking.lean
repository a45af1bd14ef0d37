import Daybook.Proofs.Daemon.Serving

namespace Daybook

theorem take_zipIdx {α : Type} (xs : List α) (k : Nat) : (xs.take k).zipIdx = xs.zipIdx.take k := by
  refine List.ext_getElem? fun i => ?_
  simp only [List.getElem?_zipIdx, List.getElem?_take]
  split <;> rfl

namespace Service

variable (limit : Nat) (answer : Nat → Frame → Disk → Response × Disk)

/-- Lines that were answered one after the other, behind `n` others, while the output took at most
`room` answers. -/
def ofLinesWithin (room n : Nat) (lines : List Line) (disk : Disk) : Service :=
  if lines.length ≤ room then ofLines limit answer n lines disk
  else
    let written := (ofLines limit answer n lines disk).written.take room
    { ofLines limit answer n (lines.take (room + 1)) disk with
      written, output := written.flatMap Response.deliveries, broken := true }

theorem ofLinesWithin_zero (n : Nat) (line : Line) (lines : List Line) (disk : Disk) :
    ofLinesWithin limit answer 0 n (line :: lines) disk =
      { ofLines limit answer n [line] disk with written := [], output := [], broken := true } :=
  if_neg (Nat.not_succ_le_zero _)

theorem ofLinesWithin_succ (room n : Nat) (line : Line) (lines : List Line) (disk : Disk) :
    ofLinesWithin limit answer (room + 1) n (line :: lines) disk =
      (ofLines limit answer n [line] disk).andThen
        (ofLinesWithin limit answer room (n + 1) lines (step limit answer disk (line, n)).2) := by
  have hsplit := ofLines_cons limit answer n line
  simp only [ofLinesWithin, List.length_cons, Nat.add_le_add_iff_right, List.take_succ_cons]
  rw [hsplit lines, hsplit (lines.take (room + 1))]
  by_cases hroom : lines.length ≤ room
  · rw [if_pos hroom, if_pos hroom]
  · rw [if_neg hroom, if_neg hroom]
    simp [andThen, ofLines, play]

theorem serveFrom_within (room : Nat) {done : Service} (hdone : done.broken = false)
    (source : Source) :
    (serveFrom limit answer (some room) done source).reversed =
      done.reversed.andThen
        (ofLinesWithin limit answer room done.requests (linesOf source.flatten) done.disk) := by
  induction room generalizing done source with
  | zero =>
      rcases Frame.next?_cases limit source with ⟨hnone, hnil⟩ | ⟨line, later, hsome, -, hlines⟩
      · rw [serveFrom_of_none answer hnone, hnil]
        exact (andThen_ofLines_nil limit answer _ done.reversed).symm
      · -- The line is dealt with, but its answer is not among those written.
        rw [serveFrom_of_some answer hsome, hlines, ofLinesWithin_zero]
        exact reversed_counted limit answer line
  | succ room ih =>
      rcases Frame.next?_cases limit source with ⟨hnone, hnil⟩ | ⟨line, later, hsome, -, hlines⟩
      · rw [serveFrom_of_none answer hnone, hnil]
        exact (andThen_ofLines_nil limit answer _ done.reversed).symm
      · have hnext : (done.answered limit answer line).broken = false := hdone
        rw [serveFrom_of_some answer hsome]
        dsimp only
        rw [ih hnext later, hlines, reversed_answered limit answer hdone, andThen_assoc,
          ofLinesWithin_succ]
        rfl

theorem serve_within (room : Nat) (source : Source) (disk : Disk) :
    serve limit answer (some room) source disk =
      ofLinesWithin limit answer room 0 (linesOf source.flatten) disk := by
  rw [serve_eq_reversed, serveFrom_within limit answer room rfl, andThen_start]
  rfl

variable {limit answer}

theorem ofLinesWithin_of_le {room n : Nat} {lines : List Line} (h : lines.length ≤ room)
    (disk : Disk) :
    ofLinesWithin limit answer room n lines disk = ofLines limit answer n lines disk :=
  if_pos h

theorem ofLinesWithin_of_lt {room n : Nat} {lines : List Line} (h : room < lines.length)
    (disk : Disk) :
    ofLinesWithin limit answer room n lines disk =
      { ofLines limit answer n (lines.take (room + 1)) disk with
        written := (ofLines limit answer n lines disk).written.take room
        output := ((ofLines limit answer n lines disk).written.take room).flatMap
          Response.deliveries
        broken := true } :=
  if_neg (Nat.not_le.mpr h)

theorem ofLinesWithin_congr {room : Nat} {lines other : List Line} (h : room < lines.length)
    (hother : other.take (room + 1) = lines.take (room + 1)) (disk : Disk) :
    ofLinesWithin limit answer room 0 other disk =
      ofLinesWithin limit answer room 0 lines disk := by
  have hlength := congrArg List.length hother
  rw [List.length_take, List.length_take] at hlength
  have hfirst : other.take room = lines.take room := by
    have htake := congrArg (List.take room) hother
    rwa [List.take_take, List.take_take, Nat.min_eq_left (Nat.le_succ room)] at htake
  rw [ofLinesWithin_of_lt h, ofLinesWithin_of_lt (by omega), hother]
  simp only [ofLines, ← play_take, ← take_zipIdx, hfirst]

end Service

namespace Daemon

/-- An output takes the answers to the first `room` lines and refuses all others. An input that has no
more lines is served as if the output took everything. Otherwise just these answers have reached the
output, each on a line of its own and flushed, and the disk is as if the input had one line more than
those and then ended. What comes after that line does not matter. -/
theorem serve_broken_output (daemon : Daemon) (log : Option MessageLog) (times : Nat → Instant)
    (room : Nat) (source : Source) (disk : Disk) :
    let lines := linesOf source.flatten
    let whole := daemon.serve log times none source disk
    let cut := daemon.serve log times (some room) source disk
    let first : Source := [(lines.take (room + 1)).flatMap Line.raw]
    (lines.length ≤ room → cut = whole) ∧
      (room < lines.length →
        (cut.broken = true ∧ cut.requests = room + 1 ∧ cut.written = whole.written.take room) ∧
          (cut.output = cut.written.flatMap Response.deliveries ∧
            cut.output.count .flush = room ∧ (linesOf cut.received).length = room ∧
            linesOf cut.received = cut.written.map (fun r => ⟨Utf8.encode r.line, true⟩) ∧
            linesOf cut.received = (linesOf whole.received).take room) ∧
          (linesOf first.flatten = lines.take (room + 1) ∧ first.flatten <+: source.flatten ∧
            cut.disk = (daemon.serve log times none first disk).disk ∧
            cut.failures = (daemon.serve log times none first disk).failures) ∧
          ∀ other : Source, (linesOf other.flatten).take (room + 1) = lines.take (room + 1) →
            daemon.serve log times (some room) other disk = cut) := by
  intro lines whole cut first
  let answer : Nat → Frame → Disk → Response × Disk := fun n => daemon.respond log (times n)
  have hwhole : whole = Service.ofLines daemon.config.maxLineBytes answer 0 lines disk :=
    Service.serve_eq _ _ source disk
  have hcut : cut = Service.ofLinesWithin daemon.config.maxLineBytes answer room 0 lines disk :=
    Service.serve_within _ _ room source disk
  refine ⟨?_, ?_⟩
  · intro hle
    rw [hcut, hwhole, Service.ofLinesWithin_of_le hle]
  intro hlt
  have hacted := hcut.trans (Service.ofLinesWithin_of_lt hlt disk)
  have hbroken : cut.broken = true := by rw [hacted]
  have hrequests : cut.requests = room + 1 := by
    rw [hacted]
    exact List.length_take_of_le hlt
  have hwritten : cut.written = whole.written.take room := by rw [hacted, hwhole]
  have houtput : cut.output = cut.written.flatMap Response.deliveries := by rw [hacted]
  have hall : whole.output = whole.written.flatMap Response.deliveries := by rw [hwhole]; rfl
  have hlength : cut.written.length = room := by
    have hmany : whole.written.length = lines.length := by
      rw [hwhole, Service.ofLines, length_play, List.length_zipIdx]
    rw [hwritten, List.length_take, hmany, Nat.min_eq_left (Nat.le_of_lt hlt)]
  have hlines : linesOf cut.received = cut.written.map fun r => ⟨Utf8.encode r.line, true⟩ := by
    rw [Service.received, houtput, Response.flatMap_content_deliveries, Response.linesOf_bytes]
  refine ⟨⟨hbroken, hrequests, hwritten⟩, ⟨houtput, ?_, ?_, hlines, ?_⟩, ?_, ?_⟩
  · rw [houtput, Response.count_flush_deliveries, hlength]
  · rw [hlines, List.length_map, hlength]
  · rw [hlines, hwritten, Service.received, hall, Response.flatMap_content_deliveries,
      Response.linesOf_bytes, List.map_take]
  · have hbytes : first.flatten = (lines.take (room + 1)).flatMap Line.raw := List.flatten_singleton
    have hfirst : linesOf first.flatten = lines.take (room + 1) := by
      rw [hbytes]
      exact linesOf_flatMap_raw_take source.flatten (room + 1)
    have halone : daemon.serve log times none first disk =
        Service.ofLines daemon.config.maxLineBytes answer 0 (lines.take (room + 1)) disk := by
      rw [← hfirst]
      exact Service.serve_eq _ _ first disk
    refine ⟨hfirst, hbytes ▸ flatMap_raw_take_prefix source.flatten (room + 1), ?_, ?_⟩
    · rw [hacted, halone]
    · rw [hacted, halone]
  · intro other hother
    rw [hcut]
    exact (Service.serve_within _ _ room other disk).trans
      (Service.ofLinesWithin_congr hlt hother disk)

/-- Two notes to be taken. -/
def twoNotes : Source :=
  [Utf8.encode "\x7b\"method\":\"take_note\",\"params\":\x7b\"content\":\"a\"\x7d\x7d\n".toList,
    Utf8.encode "\x7b\"method\":\"take_note\",\"params\":\x7b\"content\":\"b\"\x7d\x7d".toList]

theorem serve_broken_output_twoNotes :
    let lines := linesOf twoNotes.flatten
    let cut := newDaemon.serve none morning (some 1) twoNotes newDisk
    (1 < lines.length ∧ cut.broken = true ∧ (linesOf cut.received).length = 1 ∧ cut.disk =
        (newDaemon.serve none morning none [(lines.take 2).flatMap Line.raw] newDisk).disk) ∧
      (lines.length ≤ 2 ∧ newDaemon.serve none morning (some 2) twoNotes newDisk =
        newDaemon.serve none morning none twoNotes newDisk) ∧
      (newDaemon.store.readNotes cut.disk).toOption =
        some [⟨"1970-01-01 00:00:00", "a"⟩, ⟨"1970-01-01 12:00:00", "b"⟩] := by
  have hmore : 1 < (linesOf twoNotes.flatten).length := by decide
  have hall : (linesOf twoNotes.flatten).length ≤ 2 := by decide
  obtain ⟨-, hcut⟩ := serve_broken_output newDaemon none morning 1 twoNotes newDisk
  obtain ⟨⟨hbroken, -, -⟩, ⟨-, -, hreceived, -⟩, ⟨-, -, hdisk, -⟩, -⟩ := hcut hmore
  refine ⟨⟨hmore, hbroken, hreceived, hdisk⟩,
    ⟨hall, (serve_broken_output newDaemon none morning 2 twoNotes newDisk).1 hall⟩, ?_⟩
  rw [hdisk]
  decide +kernel

end Daemon

end Daybook
