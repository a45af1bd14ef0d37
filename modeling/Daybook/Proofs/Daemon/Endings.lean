import Daybook.Proofs.Daemon.Serving

namespace Daybook

namespace Line

theorem frame_return (limit : Nat) (piece : List UInt8) :
    Line.frame limit ⟨piece ++ [carriageReturn], true⟩ =
      if piece.length < limit then .line piece else .tooLong (piece.length + 1) := by
  have hcontent : Line.content ⟨piece ++ [carriageReturn], true⟩ = piece := by
    simp [Line.content]
  rw [Line.frame, hcontent]
  simp only [List.length_append, List.length_singleton, Nat.succ_le_iff]

theorem frame_feed (limit : Nat) {piece : List UInt8}
    (h : piece.getLast? ≠ some carriageReturn) :
    Line.frame limit ⟨piece, true⟩ =
      if piece.length ≤ limit then .line piece else .tooLong piece.length := by
  have hcontent : Line.content ⟨piece, true⟩ = piece := by
    simp [Line.content, h]
  rw [Line.frame, hcontent]

end Line

theorem linesOf_flatMap_feed {pieces : List (List UInt8)} (h : ∀ piece ∈ pieces, lineFeed ∉ piece) :
    linesOf (pieces.flatMap (· ++ [lineFeed])) = pieces.map (Line.mk · true) := by
  induction pieces with
  | nil => rfl
  | cons piece pieces ih =>
      rw [List.flatMap_cons, List.append_assoc, List.singleton_append,
        linesOf_feed (h piece List.mem_cons_self), List.map_cons,
        ih fun other hother => h other (List.mem_cons_of_mem _ hother)]

theorem lineFeed_not_mem_return {piece : List UInt8} (h : lineFeed ∉ piece) :
    lineFeed ∉ piece ++ [carriageReturn] := by
  rw [List.mem_append, not_or]
  exact ⟨h, by decide⟩

theorem linesOf_flatMap_return {pieces : List (List UInt8)}
    (h : ∀ piece ∈ pieces, lineFeed ∉ piece) :
    linesOf (pieces.flatMap (· ++ [carriageReturn, lineFeed])) =
      pieces.map fun piece => ⟨piece ++ [carriageReturn], true⟩ := by
  have hreturn : pieces.flatMap (· ++ [carriageReturn, lineFeed]) =
      (pieces.map (· ++ [carriageReturn])).flatMap (· ++ [lineFeed]) := by
    simp [List.flatMap_map]
  rw [hreturn, linesOf_flatMap_feed, List.map_map]
  · rfl
  · rintro _ hmem
    obtain ⟨piece, hpiece, rfl⟩ := List.mem_map.mp hmem
    exact lineFeed_not_mem_return (h piece hpiece)

/-- Two answers are the same, or say of a line that it is too long, of which the one counts a byte
more. -/
def Response.AgreeOn (limit : Nat) (r r' : Response) : Prop :=
  r = r' ∨ ∃ length, r = .failure (.ofDecodeError (.tooLong (length + 1) limit)) ∧
    r' = .failure (.ofDecodeError (.tooLong length limit))

theorem Response.AgreeOn.isSuccess_eq {limit : Nat} {r r' : Response} (h : r.AgreeOn limit r') :
    r.isSuccess = r'.isSuccess := by
  rcases h with rfl | ⟨length, rfl, rfl⟩ <;> rfl

namespace Daemon

variable {daemon : Daemon} (times : Nat → Instant)

theorem step_endings {piece : List UInt8} (hreturn : piece.getLast? ≠ some carriageReturn)
    (hlength : piece.length ≠ daemon.config.maxLineBytes) (n : Nat) (disk : Disk) :
    let step := Service.step daemon.config.maxLineBytes fun n => daemon.answer (times n)
    ((step disk (⟨piece ++ [carriageReturn], true⟩, n)).1.AgreeOn daemon.config.maxLineBytes
        (step disk (⟨piece, true⟩, n)).1) ∧
      (step disk (⟨piece ++ [carriageReturn], true⟩, n)).2 =
        (step disk (⟨piece, true⟩, n)).2 := by
  dsimp only [Service.step]
  rw [Line.frame_return, Line.frame_feed _ hreturn]
  by_cases hshort : piece.length < daemon.config.maxLineBytes
  · rw [if_pos hshort, if_pos (Nat.le_of_lt hshort)]
    exact ⟨.inl rfl, rfl⟩
  · rw [if_neg hshort, if_neg (by omega)]
    exact ⟨.inr ⟨piece.length, rfl, rfl⟩, rfl⟩

theorem play_endings {pieces : List (List UInt8)}
    (h : ∀ piece ∈ pieces, piece.getLast? ≠ some carriageReturn ∧
      piece.length ≠ daemon.config.maxLineBytes) (n : Nat) (disk : Disk) :
    let step := Service.step daemon.config.maxLineBytes fun n => daemon.answer (times n)
    let returns := play step disk
      ((pieces.map fun piece => Line.mk (piece ++ [carriageReturn]) true).zipIdx n)
    let feeds := play step disk ((pieces.map (Line.mk · true)).zipIdx n)
    List.Forall₂ (Response.AgreeOn daemon.config.maxLineBytes) returns.1 feeds.1 ∧
      returns.2 = feeds.2 := by
  induction pieces generalizing disk n with
  | nil => exact ⟨.nil, rfl⟩
  | cons piece pieces ih =>
      obtain ⟨hreturn, hlength⟩ := h piece List.mem_cons_self
      obtain ⟨hagree, hdisk⟩ := step_endings times hreturn hlength n disk
      obtain ⟨hrest, hlast⟩ := ih (fun other hother => h other (List.mem_cons_of_mem _ hother))
        (n + 1) (Service.step daemon.config.maxLineBytes (fun n => daemon.answer (times n)) disk
          (⟨piece, true⟩, n)).2
      simp only [List.map_cons, List.zipIdx_cons, play, hdisk]
      exact ⟨.cons hagree hrest, hlast⟩

theorem countP_eq_of_agreeOn {limit : Nat} {responses responses' : List Response}
    (h : List.Forall₂ (Response.AgreeOn limit) responses responses') :
    responses.countP (fun r => !r.isSuccess) = responses'.countP fun r => !r.isSuccess := by
  induction h with
  | nil => rfl
  | cons hagree _ ih => rw [List.countP_cons, List.countP_cons, ih, hagree.isSuccess_eq]

/-- A line with a carriage return before its line feed and the same line without it are read alike
exactly if the line does not have just as many bytes as the limit admits. Both leave what follows. An
input without such a line is served alike with either ending, but that the carriage return counts for
the length of a line that is too long. -/
theorem endings_agree_iff (limit : Nat) :
    (∀ {piece rest : List UInt8} {returns feeds : Source},
      lineFeed ∉ piece → piece.getLast? ≠ some carriageReturn →
      returns.flatten = piece ++ carriageReturn :: lineFeed :: rest →
      feeds.flatten = piece ++ lineFeed :: rest →
      ∃ frame frame' later later', Frame.next? limit returns = some (frame, later) ∧
        Frame.next? limit feeds = some (frame', later') ∧
        later.flatten = rest ∧ later'.flatten = rest ∧
        (frame' = .line piece ↔ piece.length ≤ limit) ∧
        ((frame = .line piece ↔ frame' = .line piece) ↔ piece.length ≠ limit)) ∧
    ∀ {daemon : Daemon} (times : Nat → Instant) (disk : Disk) {pieces : List (List UInt8)}
      {returns feeds : Source}, daemon.config.maxLineBytes = limit →
      (∀ piece ∈ pieces, lineFeed ∉ piece ∧ piece.getLast? ≠ some carriageReturn ∧
        piece.length ≠ limit) →
      returns.flatten = pieces.flatMap (· ++ [carriageReturn, lineFeed]) →
      feeds.flatten = pieces.flatMap (· ++ [lineFeed]) →
      let served := daemon.serve none times none returns disk
      let served' := daemon.serve none times none feeds disk
      served.disk = served'.disk ∧ served.requests = served'.requests ∧
        served.failures = served'.failures ∧
        List.Forall₂ (Response.AgreeOn limit) served.written served'.written := by
  constructor
  · intro piece rest returns feeds hfeed hreturn hreturns hfeeds
    have hreturns' : returns.flatten = (piece ++ [carriageReturn]) ++ lineFeed :: rest := by
      rw [hreturns, List.append_assoc]
      rfl
    obtain ⟨later, hnext, hlater⟩ :=
      Frame.next?_of_feed limit (lineFeed_not_mem_return hfeed) hreturns'
    obtain ⟨later', hnext', hlater'⟩ := Frame.next?_of_feed limit hfeed hfeeds
    refine ⟨_, _, later, later', hnext, hnext', hlater, hlater', ?_, ?_⟩
    · rw [Line.frame_feed limit hreturn]
      split <;> simp [*]
    · rw [Line.frame_return, Line.frame_feed limit hreturn]
      split <;> split <;> simp <;> omega
  · rintro daemon times disk pieces returns feeds rfl h hreturns hfeeds served served'
    have hfeed : ∀ piece ∈ pieces, lineFeed ∉ piece := fun piece hpiece => (h piece hpiece).1
    have hserved : served = _ := Service.serve_eq _ _ returns disk
    have hserved' : served' = _ := Service.serve_eq _ _ feeds disk
    rw [hreturns, linesOf_flatMap_return hfeed] at hserved
    rw [hfeeds, linesOf_flatMap_feed hfeed] at hserved'
    obtain ⟨hanswers, hdisk⟩ := play_endings times (fun piece hpiece => (h piece hpiece).2) 0 disk
    rw [hserved, hserved']
    refine ⟨hdisk, ?_, countP_eq_of_agreeOn hanswers, hanswers⟩
    simp [Service.ofLines]

def listPiece : List UInt8 := Utf8.encode "\x7b\"method\":\"list_tasks\"\x7d".toList

/-- The request ends with a carriage return and a line feed, which come in two chunks. -/
def listReturns : Source := [listPiece ++ [carriageReturn], [lineFeed]]

def listFeeds : Source := [listPiece, [lineFeed]]

theorem endings_agree_iff_list :
    (∃ frame later, Frame.next? 30 listReturns = some (frame, later) ∧
        later.flatten = [] ∧ frame = .line listPiece) ∧
      (newDaemon.serve none (fun _ => .epoch) none listReturns newDisk).disk =
        (newDaemon.serve none (fun _ => .epoch) none listFeeds newDisk).disk ∧
      (newDaemon.serve none (fun _ => .epoch) none listReturns newDisk).failures = 0 := by
  obtain ⟨hread, -⟩ := endings_agree_iff 30
  obtain ⟨-, hserved⟩ := endings_agree_iff newDaemon.config.maxLineBytes
  have hpiece : lineFeed ∉ listPiece ∧ listPiece.getLast? ≠ some carriageReturn ∧
      listPiece.length ≠ newDaemon.config.maxLineBytes := by decide
  obtain ⟨frame, frame', later, later', hnext, -, hlater, -, hfeed, hboth⟩ :=
    hread hpiece.1 hpiece.2.1 (show listReturns.flatten = _ ++ _ :: _ :: [] by rfl)
      (show listFeeds.flatten = _ ++ _ :: [] by rfl)
  have hline : frame = .line listPiece := (hboth.mpr (by decide)).mpr (hfeed.mpr (by decide))
  obtain ⟨hdisk, -, hfailures, -⟩ := hserved (fun _ => .epoch) newDisk rfl
    (show ∀ piece ∈ [listPiece], _ from List.forall_mem_singleton.mpr hpiece)
    (show listReturns.flatten = _ by rfl) (show listFeeds.flatten = _ by rfl)
  refine ⟨⟨frame, later, hnext, hlater, hline⟩, hdisk, hfailures.trans ?_⟩
  decide +kernel

/-- A line of just as many bytes as the limit admits is too long by its carriage return. -/
theorem endings_differ_at_limit :
    Frame.next? 4 [Utf8.encode "abcd\r\nnext\n".toList] =
        some (.tooLong 5, [Utf8.encode "next\n".toList]) ∧
      Frame.next? 4 [Utf8.encode "abcd\nnext\n".toList] =
        some (.line (Utf8.encode "abcd".toList), [Utf8.encode "next\n".toList]) := by
  decide

end Daemon

end Daybook
