import Daybook.Proofs.Note.Log
import Mathlib.Data.List.TakeWhile

namespace Daybook.NoteEntry

/-- What is written of a note before its footer. -/
def opening (content : List Char) (t : Instant) : List Char :=
  '\n' :: headingLine t ++ '\n' :: content ++ ['\n']

theorem format_eq_opening (content : List Char) (t : Instant) :
    format content t = opening content t ++ (footer ++ ['\n']) := by
  simp [format, opening, headingLine]

theorem encode_opening (content : List Char) (t : Instant) :
    Utf8.encode (opening content t) =
      lineFeed :: (Utf8.encode (headingLine t) ++ lineFeed :: Utf8.encode (content ++ ['\n'])) := by
  have hfeed : ∀ text, Utf8.encode ('\n' :: text) = lineFeed :: Utf8.encode text := fun _ => rfl
  rw [opening, List.append_assoc, List.cons_append, hfeed, Utf8.encode_append, List.cons_append, hfeed]

theorem Unfinished.close?_eq_none_iff (entry : Unfinished) :
    entry.close? = none ↔ footer ∉ entry.body := by
  have hdrop : entry.body.dropWhile (· != footer) = [] ↔ footer ∉ entry.body := by
    rw [List.dropWhile_eq_nil_iff]
    simp only [bne_iff_ne]
    exact ⟨fun h hmem => h footer hmem rfl, fun h line hline heq => h (heq ▸ hline)⟩
  rw [← hdrop, Unfinished.close?]
  split <;> simp [*]

namespace Scanner

theorem closed_foldl_of_not_mem {newLines : List (List Char)} (h : footer ∉ newLines)
    (s : Scanner) : (newLines.foldl push s).closed = s.closed := by
  induction newLines generalizing s with
  | nil => rfl
  | cons line newLines ih =>
      rw [List.mem_cons, not_or] at h
      rw [List.foldl_cons, ih h.2, closed_push_of_ne_footer (Ne.symm h.1)]

theorem exists_closed (found : List NoteEntry) (entry : Unfinished) :
    ∃ more, closed ⟨found, some entry⟩ = more ++ found ∧ (footer ∈ entry.body → more ≠ []) := by
  have hnone := entry.close?_eq_none_iff
  simp only [closed, Option.bind_some]
  cases hclose : entry.close? with
  | none => exact ⟨[], rfl, fun hmem => absurd hmem (hnone.mp hclose)⟩
  | some note => exact ⟨[note], rfl, fun _ => List.cons_ne_nil _ _⟩

/-- Once a heading was read, a footer gives an entry, whatever comes before and after it. -/
theorem exists_closed_foldl (found : List NoteEntry) (entry : Unfinished)
    (newLines : List (List Char)) :
    ∃ more, (newLines.foldl push ⟨found, some entry⟩).closed = more ++ found ∧
      (footer ∈ entry.body ∨ footer ∈ newLines → more ≠ []) := by
  induction newLines generalizing found entry with
  | nil =>
      obtain ⟨more, hmore, hne⟩ := exists_closed found entry
      exact ⟨more, hmore, fun hmem => hne (hmem.resolve_right List.not_mem_nil)⟩
  | cons line newLines ih =>
      cases hline : heading? line with
      | none =>
          obtain ⟨more, hmore, hne⟩ := ih found ⟨entry.timestamp, line :: entry.body⟩
          refine ⟨more, ?_, fun hmem => hne ?_⟩
          · rw [List.foldl_cons, push, hline]
            exact hmore
          · rw [List.mem_cons] at hmem ⊢
            grind
      | some timestamp =>
          -- The heading closes the entry before it, and is no footer itself.
          have hheading : footer ≠ line := by
            rintro rfl
            exact absurd (hline.symm.trans heading?_footer) (Option.some_ne_none _)
          obtain ⟨first, hfirst, hnefirst⟩ := exists_closed found entry
          obtain ⟨more, hmore, hne⟩ := ih (first ++ found) ⟨timestamp, []⟩
          refine ⟨more ++ first, ?_, fun hmem => ?_⟩
          · rw [List.foldl_cons, push_of_heading hline, hfirst, hmore, List.append_assoc]
          · rw [Ne, List.append_eq_nil_iff, not_and_or]
            rcases hmem with hbody | hmem
            · exact .inr (hnefirst hbody)
            · exact .inl (hne (.inr (List.mem_of_ne_of_mem hheading hmem)))

end Scanner

theorem lines_headingLine_feed (t : Instant) (rest : List UInt8) :
    lines (Utf8.encode (headingLine t) ++ lineFeed :: rest) = headingLine t :: lines rest := by
  have h := lines_intercalate (List.cons_ne_nil (headingLine t) [])
    (by simpa using (not_mem_headingLine t).1) rest
  simpa [stripReturn_of_not_mem (not_mem_headingLine t).2] using h

theorem footer_not_mem_lines {t : Instant} {bytes : List UInt8}
    (h : bytes <+: Utf8.encode (headingLine t)) : footer ∉ lines bytes := by
  by_cases hne : bytes = []
  · rw [hne]
    exact List.not_mem_nil
  · have hfeed : lineFeed ∉ bytes := fun hmem =>
      Utf8.lineFeed_not_mem_encode (not_mem_headingLine t).1 (h.subset hmem)
    obtain ⟨rest, hrest⟩ : ∃ rest, bytes = Utf8.encode ['#'] ++ rest := by
      obtain ⟨b, rest, rfl⟩ := List.exists_cons_of_ne_nil hne
      obtain ⟨after, hafter⟩ := h
      have hhead : some b = some 35 := congrArg List.head? hafter
      exact ⟨rest, by rw [Option.some.inj hhead]; rfl⟩
    have hline : Line.content ⟨bytes, false⟩ = bytes := rfl
    rw [lines, linesOf_of_not_mem hne hfeed, List.map_singleton, List.mem_singleton, hline, hrest,
      Utf8.decodeLossy_encode_append]
    exact fun heq => absurd (congrArg List.head? heq) (by simp [footer])

theorem exists_rest_of_footer_mem {t : Instant} {bytes after : List UInt8}
    (h : bytes <+: Utf8.encode (headingLine t) ++ lineFeed :: after) (hmem : footer ∈ lines bytes) :
    ∃ rest, bytes = Utf8.encode (headingLine t) ++ lineFeed :: rest := by
  rcases List.prefix_or_prefix_of_prefix h (List.prefix_append _ _) with hheading | ⟨rest, rfl⟩
  · exact absurd hmem (footer_not_mem_lines hheading)
  · rw [List.prefix_append_right_inj, List.prefix_cons_iff] at h
    rcases h with rfl | ⟨rest, rfl, -⟩
    · rw [List.append_nil] at hmem
      exact absurd hmem (footer_not_mem_lines (List.prefix_refl _))
    · exact ⟨rest, rfl⟩

/-- What is written of a note before its footer adds entries to a log exactly if one of its lines
reads as a footer, and leaves those that are there. -/
theorem exists_ofLog_append_torn {log : List UInt8} (hlog : log.getLast? ≠ some carriageReturn)
    {content : List Char} {t : Instant} {torn : List UInt8}
    (h : torn <+: Utf8.encode (opening content t)) :
    ∃ more, ofLog (log ++ torn) = ofLog log ++ more ∧ (more = [] ↔ footer ∉ lines torn) := by
  rw [encode_opening, List.prefix_cons_iff] at h
  rcases h with rfl | ⟨torn, rfl, h⟩
  · exact ⟨[], by simp, iff_of_true rfl List.not_mem_nil⟩
  have hmem : footer ∈ lines (lineFeed :: torn) ↔ footer ∈ lines torn := by
    have hsplit := lines_append_feed [] torn
    rw [List.nil_append] at hsplit
    rw [hsplit, List.mem_append]
    exact or_iff_right (by decide)
  have hclosed := closed_foldl_lines_feed hlog
  rw [hmem, ofLog, lines_append_feed, List.foldl_append, ofLog, ← hclosed]
  generalize (lines (log ++ [lineFeed])).foldl Scanner.push ⟨[], none⟩ = s
  by_cases hfooter : footer ∈ lines torn
  · obtain ⟨rest, rfl⟩ := exists_rest_of_footer_mem h hfooter
    rw [lines_headingLine_feed] at hfooter ⊢
    have hrest : footer ∈ lines rest := by
      refine List.mem_of_ne_of_mem ?_ hfooter
      exact fun heq => absurd (congrArg List.head? heq) (by simp [footer, headingLine, headingMark])
    obtain ⟨more, hmore, hne⟩ :=
      Scanner.exists_closed_foldl s.closed ⟨t.headingText, []⟩ (lines rest)
    refine ⟨more.reverse, ?_, ?_⟩
    · rw [List.foldl_cons, Scanner.push_of_heading (heading?_headingLine t), hmore,
        List.reverse_append]
    · rw [List.reverse_eq_nil_iff]
      exact iff_of_false (hne (.inr hrest)) (not_not_intro hfooter)
  · refine ⟨[], ?_, iff_of_true rfl hfooter⟩
    rw [Scanner.closed_foldl_of_not_mem hfooter, List.append_nil]

end Daybook.NoteEntry

namespace Daybook.NoteLog

open NoteEntry

variable {log : NoteLog} {disk : Disk} {place : Place}

/-- A note of which only a part was written, none of it its footer, leaves the entries of all notes
before it as they are. It gives no entry itself exactly if none of the lines that were written reads as
a footer. The notes before may be any, and may have been added to a log that was not there. -/
theorem entries_append_opening (h : disk.openFile log.path = .ok place)
    (hend : (disk.bytesAt place).getLast? ≠ some carriageReturn)
    (notes : List (String × Instant)) :
    ∃ before found, log.appendAll notes disk = .ok before ∧ log.entries before = .ok found ∧
      ∀ (content : String) (t : Instant),
        format content.toList t = opening content.toList t ++ (footer ++ ['\n']) ∧
          ∀ part, part <+: Utf8.encode (opening content.toList t) →
            ∃ torn more, before.append log.path part = .ok torn ∧
              log.entries torn = .ok (found ++ more) ∧ (more = [] ↔ footer ∉ lines part) := by
  obtain ⟨before, hbefore, hopen, hbytes⟩ := appendAll_of_openFile h notes
  have hlast : (before.bytesAt place).getLast? ≠ some carriageReturn := by
    rw [hbytes]
    exact getLast?_append_written hend notes
  refine ⟨before, ofLog (before.bytesAt place), hbefore, entries_of_openFile hopen, ?_⟩
  intro content t
  refine ⟨format_eq_opening content.toList t, fun part hpart => ?_⟩
  obtain ⟨torn, htorn, hopentorn, hbytestorn⟩ := Disk.append_of_openFile hopen part
  obtain ⟨more, hmore, hiff⟩ := exists_ofLog_append_torn hlast hpart
  refine ⟨torn, more, htorn, ?_, hiff⟩
  rw [entries_of_openFile hopentorn, hbytestorn, hmore]

/-- The part of a note with the lines "a", "---" and "b" that ends with the second of them. -/
def cutPart : List UInt8 :=
  Utf8.encode "\n## 1970-01-01 00:00:00\na\n---\n".toList

theorem entries_append_cutPart_after_note :
    ∃ before torn found more,
      NoteLog.appendAll ⟨"notes.md"⟩ [("milk\n---", .epoch)] .empty = .ok before ∧
      NoteLog.entries ⟨"notes.md"⟩ before = .ok found ∧
      cutPart <+: Utf8.encode (opening "a\n---\nb".toList .epoch) ∧
      before.append "notes.md" cutPart = .ok torn ∧
      NoteLog.entries ⟨"notes.md"⟩ torn = .ok (found ++ more) ∧ more ≠ [] := by
  have hopen : Disk.empty.openFile (NoteLog.mk "notes.md").path = .ok ["work", "notes.md"] := rfl
  have hpart : cutPart <+: Utf8.encode (opening "a\n---\nb".toList .epoch) := by decide
  obtain ⟨before, found, hbefore, hfound, hall⟩ :=
    entries_append_opening hopen (by decide) [("milk\n---", .epoch)]
  obtain ⟨-, htear⟩ := hall "a\n---\nb" .epoch
  obtain ⟨torn, more, htorn, hmore, hiff⟩ := htear cutPart hpart
  exact ⟨before, torn, found, more, hbefore, hfound, hpart, htorn, hmore,
    fun hnil => hiff.mp hnil (by decide)⟩

/-- Of a note that was not written to its footer an entry may be reported: its content here has a
line that reads as one. -/
theorem entries_append_cutPart :
    cutPart <+: Utf8.encode (opening "a\n---\nb".toList .epoch) ∧
      NoteLog.entries ⟨"notes.md"⟩ .empty = .ok [] ∧
      ∃ torn, Disk.empty.append "notes.md" cutPart = .ok torn ∧
        NoteLog.entries ⟨"notes.md"⟩ torn = .ok [⟨"1970-01-01 00:00:00", "a"⟩] :=
  ⟨by decide, rfl, _, rfl, by decide⟩

end Daybook.NoteLog
