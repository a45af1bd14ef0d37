import Daybook.Text.Lines

/-!
Frames: the lines of an input that arrives in chunks, each with its terminator taken off, up to a
limit. A line beyond the limit is skipped and reported with its length, so that the next frame begins
at the next line. Main statement: reading a frame makes the input shorter.
-/

namespace Daybook

/-- A line of the input, or the length of one that was too long. -/
inductive Frame where
  | line (bytes : List UInt8)
  | tooLong (length : Nat)
deriving DecidableEq, Repr

/-- An input as the chunks in which it arrives. -/
abbrev Source := List (List UInt8)

namespace Source

def size (source : Source) : Nat := source.flatten.length

/-- The chunks of a byte string, of at most `capacity` bytes each, where `current` is the chunk that is
being filled and `room` what still fits into it. -/
def fill (capacity : Nat) (done : Source) (current : List UInt8) : (room : Nat) →
    List UInt8 → Source
  | _, [] => (current.reverse :: done).reverse
  | 0, b :: rest => fill capacity (current.reverse :: done) [b] (capacity - 1) rest
  | room + 1, b :: rest => fill capacity done (b :: current) room rest

/-- A byte string that arrives in chunks of at most `capacity` bytes. Without any capacity nothing
arrives. -/
def ofBytes (capacity : Nat) (bytes : List UInt8) : Source :=
  if capacity = 0 then [] else fill capacity [] [] capacity bytes

end Source

namespace Frame

/-- How the reading of a chunk ended: at a line feed or at the limit, with the bytes read, the latest
first, and the rest of the chunk; or at the end of the chunk, with what is still to be read at most. -/
inductive Progress where
  | stopped (taken rest : List UInt8)
  | going (limit : Nat) (taken : List UInt8)

/-- Reads the bytes of a chunk up to and with a line feed, but at most `limit`. -/
def readChunk : (limit : Nat) → (taken chunk : List UInt8) → Progress
  | 0, taken, chunk => .stopped taken chunk
  | limit + 1, taken, [] => .going (limit + 1) taken
  | limit + 1, taken, b :: chunk =>
      if b = lineFeed then .stopped (b :: taken) chunk else readChunk limit (b :: taken) chunk

/-- Reads bytes up to and with a line feed, but at most `limit`. They are returned with the latest
first. -/
def readUpTo (limit : Nat) (taken : List UInt8) : Source → List UInt8 × Source
  | [] => (taken, [])
  | chunk :: source =>
      match readChunk limit taken chunk with
      | .stopped taken rest => (taken, rest :: source)
      | .going limit taken => readUpTo limit taken source

/-- Skips the rest of a line with its line feed, and counts its bytes on from `length`. -/
def skipLine (length : Nat) : Source → Nat × Source
  | [] => (length, [])
  | chunk :: source =>
      let length := length + (chunk.takeWhile (· != lineFeed)).length
      match chunk.dropWhile (· != lineFeed) with
      | [] => skipLine length source
      | _ :: rest => (length, rest :: source)

/-- The line of bytes that end before a line feed, given with the latest first. -/
def ofReversed : List UInt8 → Frame
  | [] => .line []
  | b :: before => .line (if b = carriageReturn then before.reverse else (b :: before).reverse)

/-- Reads the next frame. There is none at the end of the input. -/
def next? (limit : Nat) (source : Source) : Option (Frame × Source) :=
  match readUpTo (limit + 1) [] source with
  | ([], _) => none
  | (b :: before, source) =>
      if b = lineFeed then some (ofReversed before, source)
      else if (b :: before).length ≤ limit then some (.line (b :: before).reverse, source)
      else
        let (length, source) := skipLine (b :: before).length source
        some (.tooLong length, source)

theorem size_readChunk (limit : Nat) (taken chunk : List UInt8) :
    match readChunk limit taken chunk with
    | .stopped taken' rest => taken'.length + rest.length = taken.length + chunk.length
    | .going _ taken' => taken'.length = taken.length + chunk.length := by
  induction chunk generalizing limit taken with
  | nil => cases limit <;> simp [readChunk]
  | cons b chunk ih =>
      cases limit with
      | zero => simp [readChunk]
      | succ limit =>
          by_cases hb : b = lineFeed
          · simp [readChunk, hb]
            omega
          · have := ih limit (b :: taken)
            simp only [readChunk, hb, if_false]
            cases hr : readChunk limit (b :: taken) chunk <;> simp only [hr] at this <;>
              simp at this ⊢ <;> omega

theorem size_readUpTo (limit : Nat) (taken : List UInt8) (source : Source) :
    (readUpTo limit taken source).1.length + (readUpTo limit taken source).2.size =
      taken.length + source.size := by
  induction source generalizing limit taken with
  | nil => simp [readUpTo, Source.size]
  | cons chunk source ih =>
      have hc := size_readChunk limit taken chunk
      rw [readUpTo]
      cases hr : readChunk limit taken chunk with
      | stopped taken' rest =>
          simp only [hr] at hc
          simp only [Source.size, List.flatten_cons, List.length_append]
          omega
      | going limit' taken' =>
          simp only [hr] at hc
          have := ih limit' taken'
          simp only [Source.size, List.flatten_cons, List.length_append] at this ⊢
          omega

theorem size_skipLine (length : Nat) (source : Source) :
    (skipLine length source).2.size ≤ source.size := by
  induction source generalizing length with
  | nil => simp [skipLine]
  | cons chunk source ih =>
      have hrest := (List.dropWhile_sublist (fun b : UInt8 => b != lineFeed) (l := chunk)).length_le
      simp only [skipLine]
      split
      · have := ih (length + (chunk.takeWhile (· != lineFeed)).length)
        simp only [Source.size, List.flatten_cons, List.length_append] at this ⊢
        omega
      · rename_i heq
        rw [heq] at hrest
        simp only [Source.size, List.flatten_cons, List.length_append, List.length_cons] at hrest ⊢
        omega

theorem size_next?_lt {limit : Nat} {source rest : Source} {frame : Frame}
    (h : next? limit source = some (frame, rest)) : rest.size < source.size := by
  have hsize := size_readUpTo (limit + 1) [] source
  unfold next? at h
  split at h
  · cases h
  · rename_i b before source' hread
    rw [hread] at hsize
    simp only [List.length_cons, List.length_nil] at hsize
    split at h
    · cases h
      omega
    · split at h
      · cases h
        omega
      · have := size_skipLine (b :: before).length source'
        cases h
        omega

/-- All frames of an input, after those in `done`, the latest first. -/
def allFrom (limit : Nat) (done : List Frame) (source : Source) : List Frame :=
  match _h : next? limit source with
  | none => done.reverse
  | some (frame, rest) => allFrom limit (frame :: done) rest
termination_by source.size
decreasing_by exact size_next?_lt ‹_›

def all (limit : Nat) (source : Source) : List Frame := allFrom limit [] source

end Frame

end Daybook
