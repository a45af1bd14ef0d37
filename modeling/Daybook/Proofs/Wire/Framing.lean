import Daybook.Proofs.Text.Lines
import Daybook.Wire.Frame
import Mathlib.Data.List.Forall2
import Mathlib.Data.List.TakeWhile

namespace Daybook

/-- The frame of a line. Its line feed does not count for its length, but a carriage return before it
does. -/
def Line.frame (limit : Nat) (line : Line) : Frame :=
  if line.bytes.length ≤ limit then .line line.content else .tooLong line.bytes.length

namespace Frame

/-- The bytes of an input up to and with its first line feed, but at most `limit`. -/
def upToFeed : (limit : Nat) → List UInt8 → List UInt8
  | 0, _ => []
  | _ + 1, [] => []
  | limit + 1, b :: bytes => if b = lineFeed then [b] else b :: upToFeed limit bytes

theorem upToFeed_of_mem {limit : Nat} {piece : List UInt8} (h : lineFeed ∉ piece)
    (hlength : piece.length ≤ limit) (rest : List UInt8) :
    upToFeed (limit + 1) (piece ++ lineFeed :: rest) = piece ++ [lineFeed] := by
  induction piece generalizing limit with
  | nil => rfl
  | cons b piece ih =>
      rw [List.mem_cons, not_or] at h
      rw [List.length_cons] at hlength
      obtain ⟨limit, rfl⟩ : ∃ n, limit = n + 1 := ⟨limit - 1, by omega⟩
      rw [List.cons_append, upToFeed, if_neg (Ne.symm h.1), ih h.2 (by omega), List.cons_append]

theorem upToFeed_of_not_mem {limit : Nat} {bytes : List UInt8}
    (h : lineFeed ∉ bytes.take limit) : upToFeed limit bytes = bytes.take limit := by
  induction bytes generalizing limit with
  | nil => cases limit <;> simp [upToFeed]
  | cons b bytes ih =>
      cases limit with
      | zero => rfl
      | succ limit =>
          rw [List.take_succ_cons, List.mem_cons, not_or] at h
          rw [upToFeed, if_neg (Ne.symm h.1), ih h.2, List.take_succ_cons]

theorem readChunk_eq (limit : Nat) (taken chunk later : List UInt8) :
    match readChunk limit taken chunk with
    | .stopped taken' rest =>
        taken' = (upToFeed limit (chunk ++ later)).reverse ++ taken ∧
          chunk = upToFeed limit (chunk ++ later) ++ rest
    | .going limit' taken' =>
        taken' = chunk.reverse ++ taken ∧
          upToFeed limit (chunk ++ later) = chunk ++ upToFeed limit' later := by
  induction chunk generalizing limit taken with
  | nil => cases limit <;> simp [readChunk, upToFeed]
  | cons b chunk ih =>
      cases limit with
      | zero => simp [readChunk, upToFeed]
      | succ limit =>
          by_cases hb : b = lineFeed
          · simp [readChunk, upToFeed, hb]
          · have := ih limit (b :: taken)
            simp only [readChunk, List.cons_append, upToFeed, if_neg hb]
            cases hread : readChunk limit (b :: taken) chunk <;> rw [hread] at this <;>
              simpa using this

theorem readUpTo_eq (limit : Nat) (taken : List UInt8) (source : Source) :
    ∃ later, readUpTo limit taken source =
        ((upToFeed limit source.flatten).reverse ++ taken, later) ∧
      source.flatten = upToFeed limit source.flatten ++ later.flatten := by
  induction source generalizing limit taken with
  | nil => cases limit <;> exact ⟨[], rfl, rfl⟩
  | cons chunk source ih =>
      have hchunk := readChunk_eq limit taken chunk source.flatten
      rw [readUpTo]
      cases hread : readChunk limit taken chunk with
      | stopped taken' rest =>
          simp only [hread] at hchunk
          refine ⟨rest :: source, by rw [hchunk.1]; rfl, ?_⟩
          rw [List.flatten_cons, List.flatten_cons, ← List.append_assoc, ← hchunk.2]
      | going limit' taken' =>
          simp only [hread] at hchunk
          obtain ⟨later, hlater, hflatten⟩ := ih limit' taken'
          refine ⟨later, ?_, ?_⟩
          · rw [List.flatten_cons, hchunk.2, List.reverse_append, List.append_assoc, ← hchunk.1]
            exact hlater
          · rw [List.flatten_cons, hchunk.2, List.append_assoc, ← hflatten]

theorem skipLine_eq (length : Nat) (source : Source) :
    ∃ later, skipLine length source =
        (length + (source.flatten.takeWhile (· != lineFeed)).length, later) ∧
      later.flatten = (source.flatten.dropWhile (· != lineFeed)).tail := by
  induction source generalizing length with
  | nil => exact ⟨[], rfl, rfl⟩
  | cons chunk source ih =>
      have hsplit := List.takeWhile_append_dropWhile (p := (· != lineFeed)) (l := chunk)
      have hall : ∀ b ∈ chunk.takeWhile (· != lineFeed), b != lineFeed :=
        fun _ => List.mem_takeWhile_imp (p := (· != lineFeed))
      have hhead := List.head?_dropWhile_not (· != lineFeed) chunk
      simp only [skipLine, List.flatten_cons]
      generalize chunk.takeWhile (· != lineFeed) = piece at hsplit hall
      cases hdrop : chunk.dropWhile (· != lineFeed) with
      | nil =>
          rw [hdrop, List.append_nil] at hsplit
          rw [← hsplit, List.takeWhile_append_of_pos hall, List.dropWhile_append_of_pos hall,
            List.length_append, ← Nat.add_assoc]
          exact ih _
      | cons b rest =>
          have hb : ¬ (b != lineFeed) = true := by
            rw [hdrop] at hhead
            simpa using hhead
          rw [hdrop] at hsplit
          rw [← hsplit, List.append_assoc, List.takeWhile_append_of_pos hall,
            List.dropWhile_append_of_pos hall, List.cons_append,
            List.takeWhile_cons_of_neg (p := (· != lineFeed)) hb,
            List.dropWhile_cons_of_neg (p := (· != lineFeed)) hb, List.append_nil]
          exact ⟨rest :: source, rfl, rfl⟩

theorem ofReversed_reverse (piece : List UInt8) :
    ofReversed piece.reverse = .line (Line.content ⟨piece, true⟩) := by
  rcases List.eq_nil_or_concat piece with rfl | ⟨before, b, rfl⟩
  · rfl
  · simp only [List.concat_eq_append, List.reverse_append, List.reverse_singleton,
      List.singleton_append, ofReversed, Line.content, List.getLast?_concat, List.dropLast_concat]
    by_cases hb : b = carriageReturn <;> simp [hb]

theorem next?_of_nil {limit : Nat} {source : Source} (h : source.flatten = []) :
    next? limit source = none := by
  obtain ⟨later, hread, -⟩ := readUpTo_eq (limit + 1) [] source
  rw [h] at hread
  rw [next?, hread]
  rfl

theorem next?_of_reverse {limit : Nat} {source later : Source} {taken : List UInt8} {b : UInt8}
    {before : List UInt8} (hread : readUpTo (limit + 1) [] source = (taken.reverse ++ [], later))
    (htaken : taken.reverse = b :: before) :
    next? limit source =
      if b = lineFeed then some (ofReversed before, later)
      else if taken.length ≤ limit then some (.line taken, later)
      else some (.tooLong (skipLine taken.length later).1, (skipLine taken.length later).2) := by
  have hsame : taken = (b :: before).reverse := by rw [← htaken, List.reverse_reverse]
  rw [List.append_nil, htaken] at hread
  rw [next?, hread, hsame, List.length_reverse]

theorem next?_of_long (limit : Nat) {source : Source} {piece after : List UInt8}
    (hpiece : lineFeed ∉ piece) (hlong : limit < piece.length)
    (hafter : after.takeWhile (· != lineFeed) = []) (hsource : source.flatten = piece ++ after) :
    ∃ later, next? limit source = some (.tooLong piece.length, later) ∧
      later.flatten = (after.dropWhile (· != lineFeed)).tail := by
  obtain ⟨later, hread, hlater⟩ := readUpTo_eq (limit + 1) [] source
  have htake : (piece ++ after).take (limit + 1) = piece.take (limit + 1) :=
    List.take_append_of_le_length (by omega)
  have hfirst : upToFeed (limit + 1) (piece ++ after) = piece.take (limit + 1) := by
    rw [upToFeed_of_not_mem, htake]
    rw [htake]
    exact fun hmem => hpiece (List.mem_of_mem_take hmem)
  have hsplit := List.take_append_drop (limit + 1) piece
  have hlength : (piece.take (limit + 1)).length = limit + 1 := by
    rw [List.length_take]
    omega
  rw [hsource, hfirst] at hread hlater
  generalize piece.take (limit + 1) = first at hsplit hlength hread hlater
  generalize piece.drop (limit + 1) = second at hsplit
  subst hsplit
  rw [List.append_assoc, List.append_cancel_left_eq] at hlater
  rw [List.mem_append, not_or] at hpiece
  have hall : ∀ b ∈ second, b != lineFeed := by
    intro b hb
    rw [bne_iff_ne]
    rintro rfl
    exact hpiece.2 hb
  obtain ⟨rest, hskip, hrest⟩ := skipLine_eq first.length later
  rw [← hlater, List.takeWhile_append_of_pos hall, hafter, List.append_nil,
    ← List.length_append] at hskip
  rw [← hlater, List.dropWhile_append_of_pos hall] at hrest
  cases hreversed : first.reverse with
  | nil => simp [List.reverse_eq_nil_iff.mp hreversed] at hlength
  | cons b before =>
      have hb : b ≠ lineFeed := by
        rintro rfl
        exact hpiece.1 (List.mem_reverse.mp (hreversed ▸ List.mem_cons_self))
      refine ⟨rest, ?_, hrest⟩
      rw [next?_of_reverse hread hreversed, if_neg hb, if_neg (by omega), hskip]

theorem next?_of_feed (limit : Nat) {source : Source} {piece after : List UInt8}
    (hpiece : lineFeed ∉ piece) (hsource : source.flatten = piece ++ lineFeed :: after) :
    ∃ later, next? limit source = some (Line.frame limit ⟨piece, true⟩, later) ∧
      later.flatten = after := by
  by_cases hlong : piece.length ≤ limit
  · obtain ⟨later, hread, hlater⟩ := readUpTo_eq (limit + 1) [] source
    rw [hsource, upToFeed_of_mem hpiece hlong] at hread hlater
    rw [List.append_assoc, List.append_cancel_left_eq] at hlater
    refine ⟨later, ?_, (List.cons.inj hlater).2.symm⟩
    rw [next?_of_reverse hread List.reverse_concat, if_pos rfl, ofReversed_reverse, Line.frame,
      if_pos hlong]
  · rw [Line.frame, if_neg hlong]
    exact next?_of_long limit hpiece (Nat.lt_of_not_le hlong) rfl hsource

theorem next?_of_not_mem (limit : Nat) {source : Source} (hne : source.flatten ≠ [])
    (hmem : lineFeed ∉ source.flatten) :
    ∃ later, next? limit source = some (Line.frame limit ⟨source.flatten, false⟩, later) ∧
      later.flatten = [] := by
  by_cases hlong : source.flatten.length ≤ limit
  · obtain ⟨later, hread, hlater⟩ := readUpTo_eq (limit + 1) [] source
    have hall : source.flatten.take (limit + 1) = source.flatten :=
      List.take_of_length_le (Nat.le_succ_of_le hlong)
    rw [upToFeed_of_not_mem (by rwa [hall]), hall] at hread hlater
    cases hreversed : source.flatten.reverse with
    | nil => exact absurd (List.reverse_eq_nil_iff.mp hreversed) hne
    | cons b before =>
        have hb : b ≠ lineFeed := by
          rintro rfl
          exact hmem (List.mem_reverse.mp (hreversed ▸ List.mem_cons_self))
        refine ⟨later, ?_, List.self_eq_append_right.mp hlater⟩
        rw [next?_of_reverse hread hreversed, if_neg hb, if_pos hlong, Line.frame, if_pos hlong]
        rfl
  · rw [Line.frame, if_neg hlong]
    have hnil : ([] : List UInt8).takeWhile (· != lineFeed) = [] := rfl
    exact next?_of_long limit hmem (Nat.lt_of_not_le hlong) hnil (List.append_nil _).symm

/-- The next frame is that of the first line. The bytes of that line are taken from the input, and no
others. -/
theorem next?_cases (limit : Nat) (source : Source) :
    (next? limit source = none ∧ source.flatten = []) ∨
      ∃ line later, next? limit source = some (line.frame limit, later) ∧
        source.flatten = line.raw ++ later.flatten ∧
        linesOf source.flatten = line :: linesOf later.flatten := by
  by_cases hne : source.flatten = []
  · exact .inl ⟨next?_of_nil hne, hne⟩
  · rcases linesOf_cases hne with ⟨hmem, hlines⟩ | ⟨piece, rest, hsource, hpiece, hlines⟩
    · obtain ⟨later, hnext, hlater⟩ := next?_of_not_mem limit hne hmem
      refine .inr ⟨⟨source.flatten, false⟩, later, hnext, ?_, by rw [hlines, hlater]; rfl⟩
      rw [hlater, List.append_nil]
      rfl
    · obtain ⟨later, hnext, hlater⟩ := next?_of_feed limit hpiece hsource
      refine .inr ⟨⟨piece, true⟩, later, hnext, ?_, by rw [hlines, hlater]⟩
      rw [hsource, hlater, Line.raw, if_pos rfl, List.append_assoc]
      rfl

theorem next?_eq_none_iff {limit : Nat} {source : Source} :
    next? limit source = none ↔ source.flatten = [] := by
  refine ⟨fun h => ?_, next?_of_nil⟩
  rcases next?_cases limit source with ⟨-, hnil⟩ | ⟨line, later, hsome, -⟩
  · exact hnil
  · rw [h] at hsome
    cases hsome

theorem next?_eq_some {limit : Nat} {source later : Source} {frame : Frame}
    (h : next? limit source = some (frame, later)) :
    ∃ line, frame = line.frame limit ∧ source.flatten = line.raw ++ later.flatten ∧
      linesOf source.flatten = line :: linesOf later.flatten := by
  rcases next?_cases limit source with ⟨hnone, -⟩ | ⟨line, rest, hsome, hbytes, hlines⟩
  · rw [hnone] at h
    cases h
  · rw [hsome] at h
    cases h
    exact ⟨line, rfl, hbytes, hlines⟩

theorem allFrom_eq (limit : Nat) (done : List Frame) (source : Source) :
    allFrom limit done source =
      done.reverse ++ (linesOf source.flatten).map (Line.frame limit) := by
  fun_induction allFrom limit done source with
  | case1 done source hnone =>
      rw [next?_eq_none_iff.mp hnone]
      exact (List.append_nil _).symm
  | case2 done source frame later hsome ih =>
      obtain ⟨line, rfl, -, hlines⟩ := next?_eq_some hsome
      rw [ih, hlines]
      simp

theorem all_eq (limit : Nat) (source : Source) :
    all limit source = (linesOf source.flatten).map (Line.frame limit) := allFrom_eq limit [] source

theorem frame_of_le {limit limit' : Nat} (h : limit ≤ limit') (line : Line) :
    line.frame limit' = line.frame limit ∨
      line.frame limit = .tooLong line.bytes.length ∧ line.frame limit' = .line line.content := by
  unfold Line.frame
  by_cases hlong : line.bytes.length ≤ limit
  · rw [if_pos hlong, if_pos (Nat.le_trans hlong h)]
    exact .inl rfl
  · rw [if_neg hlong]
    by_cases hlong' : line.bytes.length ≤ limit'
    · exact .inr ⟨rfl, if_pos hlong'⟩
    · exact .inl (if_neg hlong')

/-- The frames of an input are its pieces between line feeds, in their order, whatever the limit and
however the input is cut into chunks. Each frame takes the bytes of its piece and its line feed from the
input, and a greater limit only makes lines of frames that were too long. -/
theorem all_eq_splitOn (limit : Nat) (source : Source) :
    let pieces := source.flatten.splitOn lineFeed
    let lines := pieces.dropLast.map (Line.mk · true) ++
      (pieces.getLast?.toList.filter (· ≠ [])).map (Line.mk · false)
    all limit source = lines.map (Line.frame limit) ∧
      (next? limit source = none ↔ source.flatten = []) ∧
      (∀ frame later, next? limit source = some (frame, later) →
        ∃ line, lines.head? = some line ∧ frame = line.frame limit ∧
          source.flatten = line.raw ++ later.flatten) ∧
      (∀ other : Source, other.flatten = source.flatten → all limit other = all limit source) ∧
      ∀ limit', limit ≤ limit' →
        List.Forall₂ (fun frame frame' => frame' = frame ∨
            ∃ line : Line, frame = .tooLong line.bytes.length ∧ frame' = .line line.content)
          (all limit source) (all limit' source) := by
  intro pieces lines
  have hlines : linesOf source.flatten = lines := linesOf_eq_splitOn source.flatten
  refine ⟨?_, next?_eq_none_iff, ?_, ?_, ?_⟩
  · rw [all_eq, hlines]
  · intro frame later hnext
    obtain ⟨line, hframe, hbytes, hfirst⟩ := next?_eq_some hnext
    refine ⟨line, ?_, hframe, hbytes⟩
    rw [← hlines, hfirst]
    rfl
  · intro other hother
    rw [all_eq, all_eq, hother]
  · intro limit' hle
    rw [all_eq, all_eq, List.forall₂_map_left_iff, List.forall₂_map_right_iff, List.forall₂_same]
    intro line _
    exact (frame_of_le hle line).imp_right fun h => ⟨line, h⟩

/-- Two lines, of which the first is cut before its terminator and within it. -/
def cutLine : Source := [[97, 98], [13], [10, 99]]

theorem all_cutLine :
    (next? 2 cutLine = some (.tooLong 3, [[99]]) ∧
        ∃ line : Line, .tooLong 3 = line.frame 2 ∧ cutLine.flatten = line.raw ++ [99]) ∧
      all 2 [[97, 98, 13, 10, 99]] = all 2 cutLine ∧
      (2 ≤ 3 ∧ List.Forall₂ (fun frame frame' => frame' = frame ∨
            ∃ line : Line, frame = .tooLong line.bytes.length ∧ frame' = .line line.content)
          (all 2 cutLine) (all 3 cutLine)) := by
  obtain ⟨-, -, hnext, hcut, hlimit⟩ := all_eq_splitOn 2 cutLine
  have hfirst : next? 2 cutLine = some (.tooLong 3, [[99]]) := by decide
  obtain ⟨line, -, hframe, hbytes⟩ := hnext _ _ hfirst
  exact ⟨⟨hfirst, line, hframe, hbytes⟩, hcut _ rfl, by decide, hlimit 3 (by decide)⟩

end Frame

end Daybook
