import Daybook.Note.Entry
import Daybook.Proofs.Calendar.Reading
import Daybook.Proofs.Text.Lines

/-!
Recovering notes from the bytes of a log. Whatever the log held before, a note at its end is recovered
as it was written, and the notes before it stay as they were, exactly if no line of its content is
taken for a heading or ends with a carriage return.
-/

namespace Daybook.NoteEntry

/-- No line of a content is a heading or ends with a carriage return. -/
def IsRecoverable (content : List Char) : Prop :=
  ∀ line ∈ content.splitOn '\n', line.getLast? ≠ some '\r' ∧ heading? line = none

instance (content : List Char) : Decidable (IsRecoverable content) := by
  unfold IsRecoverable
  infer_instance

/-- The entry that a note is expected to give. -/
def ofNote (content : List Char) (t : Instant) : NoteEntry :=
  ⟨String.ofList t.headingText, String.ofList content⟩

def headingLine (t : Instant) : List Char := headingMark ++ t.headingText

theorem heading?_headingLine (t : Instant) : heading? (headingLine t) = some t.headingText := by
  have hprefix : headingMark.isPrefixOf (headingLine t) := by
    rw [List.isPrefixOf_iff_prefix]
    exact List.prefix_append _ _
  rw [heading?, if_pos hprefix]
  simp only [headingLine, List.drop_left, Instant.ofHeadingText?_headingText, Option.isSome_some,
    if_true]

theorem heading?_footer : heading? footer = none := rfl

theorem mem_headingText {t : Instant} {c : Char} (h : c ∈ t.headingText) :
    c.isDigit ∨ c = '-' ∨ c = '+' ∨ c = ' ' ∨ c = ':' := by
  have hfixed : ∀ {width n : Nat}, c ∈ Digits.fixed width n → c.isDigit := Digits.isDigit_of_mem_fixed
  have hyear : c ∈ Stamp.yearText t.stamp.date.year → c.isDigit ∨ c = '-' ∨ c = '+' := by
    unfold Stamp.yearText
    intro hc
    split at hc
    · exact .inl (hfixed hc)
    · rcases List.mem_cons.mp hc with rfl | hc
      · split
        · exact .inr (.inl rfl)
        · exact .inr (.inr rfl)
      · split at hc
        · exact .inl (hfixed hc)
        · exact .inl (Digits.isDigit_of_mem_decimal hc)
  simp only [Instant.headingText, Stamp.dateText, Stamp.clockText, List.mem_append,
    List.mem_cons] at h
  grind

theorem not_mem_headingLine (t : Instant) : '\n' ∉ headingLine t ∧ '\r' ∉ headingLine t := by
  have hmark : '\n' ∉ headingMark ∧ '\r' ∉ headingMark := by decide
  have htext : '\n' ∉ t.headingText ∧ '\r' ∉ t.headingText := by
    constructor <;> exact fun h => absurd (mem_headingText h) (by decide)
  simp only [headingLine, List.mem_append, not_or]
  exact ⟨⟨hmark.1, htext.1⟩, ⟨hmark.2, htext.2⟩⟩

theorem stripReturn_of_not_mem {line : List Char} (h : '\r' ∉ line) : stripReturn line = line :=
  if_neg fun hlast => h (List.mem_of_getLast? hlast)

theorem lines_append_feed (log rest : List UInt8) :
    lines (log ++ lineFeed :: rest) = lines (log ++ [lineFeed]) ++ lines rest := by
  rw [lines, linesOf_append_feed, List.map_append]
  rfl

theorem lines_eq (log : List UInt8) :
    lines log = ((linesOf log).map Line.content).map Utf8.decodeLossy := by
  rw [lines, List.map_map]
  rfl

theorem lines_intercalate {pieces : List (List Char)} (hne : pieces ≠ [])
    (h : ∀ piece ∈ pieces, '\n' ∉ piece) (rest : List UInt8) :
    lines (Utf8.encode (['\n'].intercalate pieces) ++ lineFeed :: rest) =
      pieces.map stripReturn ++ lines rest := by
  rw [lines_eq, content_linesOf_intercalate hne h, List.map_append, List.map_map, ← lines_eq]
  congr 1
  exact List.map_congr_left fun piece _ => Utf8.decodeLossy_encode _

theorem lines_append_format (log : List UInt8) (content : List Char) (t : Instant) :
    lines (log ++ Utf8.encode (format content t)) =
      lines (log ++ [lineFeed]) ++
        (headingLine t :: ((content.splitOn '\n').map stripReturn ++ [footer])) := by
  have hfeed : ∀ text, Utf8.encode ('\n' :: text) = lineFeed :: Utf8.encode text := fun _ => rfl
  have hformat : Utf8.encode (format content t) = lineFeed :: (Utf8.encode (headingLine t) ++
      lineFeed :: (Utf8.encode content ++ lineFeed :: (Utf8.encode footer ++ [lineFeed]))) := by
    simp only [format, List.append_assoc, List.cons_append, hfeed, Utf8.encode_append]
    rw [← List.append_assoc, ← Utf8.encode_append]
    rfl
  have hcontent : Utf8.encode content =
      Utf8.encode (['\n'].intercalate (content.splitOn '\n')) := by
    rw [List.intercalate_splitOn]
  have hheading := lines_intercalate (List.cons_ne_nil (headingLine t) [])
    (by simpa using (not_mem_headingLine t).1)
  have hfooter := lines_intercalate (List.cons_ne_nil footer []) (by decide) []
  simp only [List.intercalate_singleton, List.map_cons, List.map_nil, List.singleton_append]
    at hheading hfooter
  rw [hformat, lines_append_feed, hheading, stripReturn_of_not_mem (not_mem_headingLine t).2,
    hcontent, lines_intercalate (List.splitOn_ne_nil _ _) fun _ => not_mem_of_mem_splitOn, hfooter]
  rfl

namespace Scanner

theorem push_of_heading {s : Scanner} {line timestamp : List Char}
    (h : heading? line = some timestamp) : s.push line = ⟨s.closed, some ⟨timestamp, []⟩⟩ := by
  rw [push, h]

theorem closed_push_of_ne_footer {line : List Char} (h : line ≠ footer) (s : Scanner) :
    (s.push line).closed = s.closed := by
  obtain ⟨found, current⟩ := s
  rw [push]
  cases heading? line with
  | some timestamp => rfl
  | none =>
      cases current with
      | none => rfl
      | some entry =>
          have hclose : Unfinished.close? ⟨entry.timestamp, line :: entry.body⟩ =
              entry.close? := by
            rw [Unfinished.close?, List.dropWhile_cons_of_pos (by simpa using h)]
            rfl
          simp only [closed, Option.bind_some, hclose]

theorem foldl_push_of_no_heading {found : List NoteEntry} {timestamp : List Char}
    {body newLines : List (List Char)} (h : ∀ line ∈ newLines, heading? line = none) :
    newLines.foldl push ⟨found, some ⟨timestamp, body⟩⟩ =
      ⟨found, some ⟨timestamp, newLines.reverse ++ body⟩⟩ := by
  induction newLines generalizing body with
  | nil => rfl
  | cons line newLines ih =>
      have hline := h line List.mem_cons_self
      simp only [List.foldl_cons, push, hline, List.reverse_cons, List.append_assoc,
        List.singleton_append]
      exact ih fun l hl => h l (List.mem_cons_of_mem _ hl)

theorem closed_push_footer {found : List NoteEntry} {timestamp : List Char}
    {body : List (List Char)} :
    (push ⟨found, some ⟨timestamp, body⟩⟩ footer).closed =
      ⟨String.ofList timestamp, String.ofList (['\n'].intercalate body.reverse)⟩ :: found := by
  simp only [push, heading?_footer, closed, Option.bind_some, Unfinished.close?]
  rw [List.dropWhile_cons_of_neg (by decide)]

end Scanner

/-- The lines that come before a note are those of the log, and at most an empty one more. -/
theorem closed_foldl_lines_feed {log : List UInt8} (h : log.getLast? ≠ some carriageReturn) :
    ((lines (log ++ [lineFeed])).foldl Scanner.push ⟨[], none⟩).closed =
      ((lines log).foldl Scanner.push ⟨[], none⟩).closed := by
  rw [lines_eq, lines_eq]
  rcases content_linesOf_append_feed h with hsame | hmore
  · rw [hsame]
  · have hnil : Utf8.decodeLossy [] = [] := rfl
    rw [hmore, List.map_append, List.foldl_append, List.map_singleton, hnil, List.foldl_cons,
      List.foldl_nil, Scanner.closed_push_of_ne_footer (by decide)]

theorem ofLog_append_format_eq {log : List UInt8} (h : log.getLast? ≠ some carriageReturn)
    (content : List Char) (t : Instant) :
    ofLog (log ++ Utf8.encode (format content t)) =
      ((((content.splitOn '\n').map stripReturn).foldl Scanner.push
        ⟨(ofLog log).reverse, some ⟨t.headingText, []⟩⟩).push footer).closed.reverse := by
  have hclosed := closed_foldl_lines_feed h
  rw [ofLog, lines_append_format, List.foldl_append, List.foldl_cons,
    Scanner.push_of_heading (heading?_headingLine t), hclosed, List.foldl_append, ofLog,
    List.reverse_reverse]
  rfl

theorem exists_last_heading {newLines : List (List Char)}
    (h : ¬ ∀ line ∈ newLines, heading? line = none) :
    ∃ before line timestamp after, newLines = before ++ line :: after ∧
      heading? line = some timestamp ∧ ∀ line ∈ after, heading? line = none := by
  induction newLines with
  | nil => exact absurd (fun _ hmem => absurd hmem List.not_mem_nil) h
  | cons first rest ih =>
      by_cases hrest : ∀ line ∈ rest, heading? line = none
      · cases hfirst : heading? first with
        | none =>
            refine absurd (fun line hline => ?_) h
            rcases List.mem_cons.mp hline with rfl | hmem
            · exact hfirst
            · exact hrest line hmem
        | some timestamp => exact ⟨[], first, timestamp, rest, rfl, hfirst, hrest⟩
      · obtain ⟨before, line, timestamp, after, rfl, hline, hafter⟩ := ih hrest
        exact ⟨first :: before, line, timestamp, after, rfl, hline, hafter⟩

theorem stripReturn_eq_self_iff (line : List Char) :
    stripReturn line = line ↔ line.getLast? ≠ some '\r' := by
  unfold stripReturn
  split
  · rename_i hlast
    obtain ⟨before, rfl⟩ := List.getLast?_eq_some_iff.mp hlast
    simp
  · rename_i hlast
    exact ⟨fun _ => hlast, fun _ => rfl⟩

theorem not_mem_stripReturn {line : List Char} (h : '\n' ∉ line) : '\n' ∉ stripReturn line := by
  unfold stripReturn
  split
  · exact fun hmem => h (List.dropLast_subset line hmem)
  · exact h

theorem eq_splitOn_of_intercalate {newLines : List (List Char)} {content : List Char}
    (hne : newLines ≠ []) (h : ∀ line ∈ newLines, '\n' ∉ line)
    (hcontent : ['\n'].intercalate newLines = content) : newLines = content.splitOn '\n' := by
  rw [← hcontent, List.splitOn_intercalate '\n' h hne]

theorem ofLog_append_format_of_recoverable {log : List UInt8}
    (hlog : log.getLast? ≠ some carriageReturn) {content : List Char} (t : Instant)
    (h : IsRecoverable content) :
    ofLog (log ++ Utf8.encode (format content t)) = ofLog log ++ [ofNote content t] := by
  have hsame : (content.splitOn '\n').map stripReturn = content.splitOn '\n' := by
    refine (List.map_congr_left fun line hline => ?_).trans (List.map_id _)
    exact (stripReturn_eq_self_iff line).mpr (h line hline).1
  rw [ofLog_append_format_eq hlog, hsame,
    Scanner.foldl_push_of_no_heading fun line hline => (h line hline).2,
    Scanner.closed_push_footer, List.append_nil, List.reverse_reverse, List.intercalate_splitOn,
    List.reverse_cons, List.reverse_reverse]
  rfl

theorem isRecoverable_of_ofLog_append_format {log : List UInt8}
    (hlog : log.getLast? ≠ some carriageReturn) {content : List Char} {t : Instant}
    (h : ofLog (log ++ Utf8.encode (format content t)) = ofLog log ++ [ofNote content t]) :
    IsRecoverable content := by
  have hpieces : ∀ line ∈ (content.splitOn '\n').map stripReturn, '\n' ∉ line := by
    intro line hline
    obtain ⟨piece, hpiece, rfl⟩ := List.mem_map.mp hline
    exact not_mem_stripReturn (not_mem_of_mem_splitOn hpiece)
  have hlast : ∀ {found : List NoteEntry} {timestamp : String} {text : List Char},
      found ++ [⟨timestamp, String.ofList text⟩] = ofLog log ++ [ofNote content t] →
        text = content := by
    intro found timestamp text heq
    have hentry := List.singleton_inj.mp (List.append_inj_right' heq rfl)
    exact String.ofList_injective (congrArg NoteEntry.content hentry)
  rw [ofLog_append_format_eq hlog] at h
  by_cases hheading : ∀ line ∈ (content.splitOn '\n').map stripReturn, heading? line = none
  · rw [Scanner.foldl_push_of_no_heading hheading, Scanner.closed_push_footer, List.append_nil,
      List.reverse_reverse, List.reverse_cons] at h
    have hsame := eq_splitOn_of_intercalate (by simp) hpieces (hlast h)
    rw [hsame] at hheading
    intro line hline
    refine ⟨(stripReturn_eq_self_iff line).mp ?_, hheading line hline⟩
    exact List.map_inj_left.mp (hsame.trans (List.map_id _).symm) line hline
  · exfalso
    obtain ⟨before, line, timestamp, after, hlines, hline, hafter⟩ := exists_last_heading hheading
    have hlength := congrArg List.length hlines
    rw [hlines, List.foldl_append, List.foldl_cons, Scanner.push_of_heading hline] at h
    rw [Scanner.foldl_push_of_no_heading hafter, Scanner.closed_push_footer, List.append_nil,
      List.reverse_reverse, List.reverse_cons] at h
    have hcontent := hlast h
    by_cases hnil : after = []
    · have hmem : line ∈ (content.splitOn '\n').map stripReturn := by
        rw [hlines]
        exact List.mem_append_right before List.mem_cons_self
      rw [hnil, List.intercalate_nil] at hcontent
      rw [← hcontent, List.splitOn_nil, List.map_singleton, List.mem_singleton] at hmem
      have hnone : heading? (stripReturn []) = none := rfl
      rw [hmem, hnone] at hline
      exact absurd hline.symm (Option.some_ne_none _)
    · have hsame := eq_splitOn_of_intercalate hnil
        (fun line hmem => hpieces line (by rw [hlines]; simp [hmem])) hcontent
      rw [← hsame] at hlength
      simp at hlength
      omega

def written (notes : List (String × Instant)) : List UInt8 :=
  notes.flatMap fun note => Utf8.encode (format note.1.toList note.2)

theorem getLast?_append_format (log : List UInt8) (content : List Char) (t : Instant) :
    (log ++ Utf8.encode (format content t)).getLast? = some lineFeed := by
  have hfeed : Utf8.encode ['\n'] = [lineFeed] := rfl
  rw [format, Utf8.encode_append, hfeed, ← List.append_assoc, List.getLast?_concat]

theorem getLast?_append_written {log : List UInt8} (hlog : log.getLast? ≠ some carriageReturn)
    (notes : List (String × Instant)) :
    (log ++ written notes).getLast? ≠ some carriageReturn := by
  rcases List.eq_nil_or_concat notes with rfl | ⟨before, note, rfl⟩
  · simpa [written] using hlog
  · rw [List.concat_eq_append, written, List.flatMap_append, List.flatMap_singleton,
      ← List.append_assoc, getLast?_append_format]
    decide

theorem ofLog_append_written {log : List UInt8} (hlog : log.getLast? ≠ some carriageReturn)
    {notes : List (String × Instant)} (h : ∀ note ∈ notes, IsRecoverable note.1.toList) :
    ofLog (log ++ written notes) =
      ofLog log ++ notes.map fun note => ofNote note.1.toList note.2 := by
  induction notes generalizing log with
  | nil => simp [written]
  | cons note notes ih =>
      have hfirst := ofLog_append_format_of_recoverable hlog note.2 (h note List.mem_cons_self)
      have hreturn : (log ++ Utf8.encode (format note.1.toList note.2)).getLast? ≠
          some carriageReturn := by
        rw [getLast?_append_format]
        decide
      have hrest := ih hreturn fun n hn => h n (List.mem_cons_of_mem _ hn)
      rw [written, List.flatMap_cons, ← List.append_assoc]
      rw [written, hfirst] at hrest
      simpa using hrest

end Daybook.NoteEntry
