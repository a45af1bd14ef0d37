import Daybook.Note.Log
import Daybook.Proofs.Text.Lines
import Daybook.Proofs.Text.Lower

namespace Daybook.NoteLog

open NoteEntry

section Hits

variable (filename : String) (needle : List Char)

def hit? (number : Nat) (line : List Char) : Option NoteMatch :=
  if Case.occursIn needle (Case.lower line) then
    some ⟨filename, number, String.ofList (trim line)⟩
  else none

/-- The lines in which a text is found, of lines that are counted from `number`. -/
def hits (number : Nat) (lines : List (List Char)) : List NoteMatch :=
  (lines.zipIdx number).filterMap fun pair => hit? filename needle pair.2 pair.1

theorem hits_cons (number : Nat) (line : List Char) (lines : List (List Char)) :
    hits filename needle number (line :: lines) =
      (hit? filename needle number line).toList ++ hits filename needle (number + 1) lines := by
  rw [hits, List.zipIdx_cons, List.filterMap_cons]
  cases hit? filename needle number line <;> rfl

theorem hits_append (number : Nat) (earlier later : List (List Char)) :
    hits filename needle number (earlier ++ later) =
      hits filename needle number earlier ++
        hits filename needle (number + earlier.length) later := by
  rw [hits, List.zipIdx_append, List.filterMap_append]
  rfl

theorem searchLines_eq (limit number : Nat) (found : List NoteMatch) (lines : List (List Char)) :
    searchLines filename needle limit number found lines =
      found.reverse ++ (hits filename needle number lines).take limit := by
  induction lines generalizing limit number found with
  | nil => cases limit <;> simp [searchLines, hits]
  | cons line lines ih =>
      cases limit with
      | zero => simp [searchLines]
      | succ limit =>
          rw [searchLines, hits_cons, hit?]
          by_cases hfound : Case.occursIn needle (Case.lower line) = true
          · rw [if_pos hfound, if_pos hfound, ih]
            simp
          · rw [if_neg hfound, if_neg hfound, ih]
            simp

theorem hits_eq_map_filter (number : Nat) (lines : List (List Char)) :
    hits filename needle number lines =
      ((lines.zipIdx number).filter fun pair => needle <:+: Case.lower pair.1).map fun pair =>
        ⟨filename, pair.2, String.ofList (trim pair.1)⟩ := by
  induction lines generalizing number with
  | nil => rfl
  | cons line lines ih =>
      rw [hits_cons, ih, List.zipIdx_cons, List.filter_cons, hit?]
      by_cases hfound : needle <:+: Case.lower line
      · rw [if_pos (Case.occursIn_iff.mpr hfound), if_pos (decide_eq_true hfound)]
        rfl
      · rw [if_neg (mt Case.occursIn_iff.mp hfound), if_neg (by simpa using hfound)]
        rfl

theorem pairwise_line_hits (number : Nat) (lines : List (List Char)) :
    ((hits filename needle number lines).map (·.line)).Pairwise (· < ·) := by
  have hnumbers : ((lines.zipIdx number).map Prod.snd).Pairwise (· < ·) := by
    rw [List.zipIdx_map_snd]
    exact List.pairwise_lt_range' 1
  rw [hits_eq_map_filter, List.map_map]
  exact hnumbers.sublist (List.filter_sublist.map Prod.snd)

theorem length_hits_le (number : Nat) (lines : List (List Char)) :
    (hits filename needle number lines).length ≤ lines.length := by
  have hle := List.length_filterMap_le (fun pair => hit? filename needle pair.2 pair.1)
    (lines.zipIdx number)
  rwa [List.length_zipIdx] at hle

/-- A line is among those that are found, under its own number, exactly if it contains the text. -/
theorem mem_hits_iff {lines : List (List Char)} {index : Nat} {line : List Char}
    (hline : lines[index]? = some line) :
    (⟨filename, index + 1, String.ofList (trim line)⟩ : NoteMatch) ∈ hits filename needle 1 lines ↔
      needle <:+: Case.lower line := by
  rw [hits_eq_map_filter, List.mem_map]
  constructor
  · rintro ⟨⟨other, number⟩, hmem, hsame⟩
    obtain ⟨hpair, hinfix⟩ := List.mem_filter.mp hmem
    obtain ⟨-, hnumber, -⟩ := NoteMatch.mk.inj hsame
    obtain rfl : number = index + 1 := hnumber
    rw [List.mk_mem_zipIdx_iff_le_and_getElem?_sub] at hpair
    rw [Nat.add_sub_cancel, hline] at hpair
    rw [Option.some.inj hpair.2]
    exact of_decide_eq_true hinfix
  · intro hinfix
    refine ⟨(line, index + 1), List.mem_filter.mpr ⟨?_, decide_eq_true hinfix⟩, rfl⟩
    rw [List.mk_mem_zipIdx_iff_le_and_getElem?_sub, Nat.add_sub_cancel]
    exact ⟨Nat.le_add_left 1 index, hline⟩

end Hits

variable {log : NoteLog} {disk : Disk} {bytes : List UInt8}

theorem search_eq (query : String) {limit : Nat} (hlimit : limit ≠ 0) :
    log.search query limit disk = (log.read? disk).map fun found =>
      (hits log.fileName (Case.lower query.toList) 1 (lines (found.getD []))).take limit := by
  rw [search, if_neg hlimit]
  cases log.read? disk with
  | error e => rfl
  | ok found =>
      cases found with
      | none => exact congrArg Except.ok List.take_nil.symm
      | some bytes => exact congrArg Except.ok (searchLines_eq _ _ limit 1 [] _)

theorem search_of_read? {found : Option (List UInt8)} (h : log.read? disk = .ok found)
    (query : String) (limit : Nat) :
    log.search query limit disk =
      .ok ((hits log.fileName (Case.lower query.toList) 1 (lines (found.getD []))).take limit) := by
  by_cases hlimit : limit = 0
  · subst hlimit
    rfl
  · rw [search_eq query hlimit, h]
    rfl

theorem read?_of_read (h : disk.read log.path = .ok bytes) : log.read? disk = .ok (some bytes) := by
  rw [read?, h]

theorem read?_of_notFound (h : disk.read log.path = .error .notFound) :
    log.read? disk = .ok none := by
  rw [read?, h]

/-- The lines of a file that contain a text without regard to case, each with its number, counted from
1, and without the white space around it. -/
def matchingLines (filename : String) (query : List Char) (bytes : List UInt8) : List NoteMatch :=
  ((((physicalLines bytes).map Utf8.decodeLossy).zipIdx 1).filter fun pair =>
    Case.lower query <:+: Case.lower pair.1).map fun pair =>
      ⟨filename, pair.2, String.ofList (trim pair.1)⟩

theorem hits_eq_matchingLines (filename : String) (query : List Char) (bytes : List UInt8) :
    hits filename (Case.lower query) 1 (lines bytes) = matchingLines filename query bytes := by
  rw [hits_eq_map_filter, matchingLines, ← content_linesOf, List.map_map]
  rfl

/-- A search finds the first lines of the file that contain the query, as many as the limit allows,
and none where there is no file. So the numbers of the lines increase, and with a smaller limit the
first of them are found. -/
theorem search_eq_take (log : NoteLog) (disk : Disk) (query : String) (limit : Nat) :
    (∀ bytes, disk.read log.path = .ok bytes → log.search query limit disk =
      .ok ((matchingLines log.fileName query.toList bytes).take limit)) ∧
    (disk.read log.path = .error .notFound → log.search query limit disk = .ok []) ∧
    ∀ found, log.search query limit disk = .ok found →
      (found.map (·.line)).Pairwise (· < ·) ∧
        ∀ less ≤ limit, ∃ fewer, log.search query less disk = .ok fewer ∧ fewer <+: found := by
  refine ⟨?_, ?_, ?_⟩
  · intro bytes hread
    rw [search_of_read? (read?_of_read hread), Option.getD_some, hits_eq_matchingLines]
  · intro hread
    rw [search_of_read? (read?_of_notFound hread), Option.getD_none]
    exact congrArg Except.ok List.take_nil
  · intro found hfound
    by_cases hlimit : limit = 0
    · subst hlimit
      cases hfound
      refine ⟨List.Pairwise.nil, fun less hless => ⟨[], ?_, List.prefix_rfl⟩⟩
      rw [Nat.le_zero.mp hless]
      rfl
    · rw [search_eq query hlimit] at hfound
      cases hread : log.read? disk with
      | error e =>
          rw [hread] at hfound
          cases hfound
      | ok there =>
          rw [hread] at hfound
          cases hfound
          refine ⟨?_, fun less hless => ⟨_, search_of_read? hread query less, ?_⟩⟩
          · rw [List.map_take]
            exact (pairwise_line_hits _ _ 1 _).sublist (List.take_sublist _ _)
          · exact List.take_prefix_take_left hless

/-- A list of what to buy, with both kinds of line ends, a byte that is no text and a last line that is
not ended. -/
def shoppingBytes : List UInt8 :=
  Utf8.encode "Milk\r\n \t".toList ++ [0xFF] ++ Utf8.encode "MILK \nbread\n\nno milk\r".toList

def shoppingDisk : Disk := Disk.empty.put ["work", "notes.md"] (.file shoppingBytes)

theorem read_shoppingDisk : shoppingDisk.read "notes.md" = .ok shoppingBytes := by rfl

theorem search_eq_take_shoppingDisk :
    let log : NoteLog := ⟨"notes.md"⟩
    let found : List NoteMatch :=
      [⟨"notes.md", 1, "Milk"⟩, ⟨"notes.md", 2, "\uFFFDMILK"⟩, ⟨"notes.md", 5, "no milk"⟩]
    (shoppingDisk.read log.path = .ok shoppingBytes ∧
        log.search "mILK" 5 shoppingDisk = .ok found) ∧
      (Disk.empty.read log.path = .error .notFound ∧ log.search "mILK" 5 .empty = .ok []) ∧
      (found.map (·.line)).Pairwise (· < ·) ∧
      ∃ fewer, log.search "mILK" 2 shoppingDisk = .ok fewer ∧ fewer <+: found := by
  intro log found
  have hread : shoppingDisk.read log.path = .ok shoppingBytes := read_shoppingDisk
  have hnone : Disk.empty.read "notes.md" = .error .notFound := by rfl
  have hfirst : (matchingLines log.fileName "mILK".toList shoppingBytes).take 5 = found := by
    decide +kernel
  obtain ⟨hspec, -, hrest⟩ := search_eq_take log shoppingDisk "mILK" 5
  have hfound := (hspec shoppingBytes hread).trans (congrArg Except.ok hfirst)
  obtain ⟨hincreasing, hfewer⟩ := hrest found hfound
  exact ⟨⟨hread, hfound⟩, ⟨hnone, (search_eq_take log .empty "mILK" 5).2.1 hnone⟩, hincreasing,
    hfewer 2 (by decide)⟩

/-- A text that was copied from a line of the log finds that line, if it was not cut out of a word at a
capital sigma. If it was, the line reads otherwise where it stands; the line is then found only if the
text can be found elsewhere in it. -/
theorem search_copied (hread : disk.read log.path = .ok bytes) {index : Nat}
    {before after : List Char} {query : String}
    (hline : (lines bytes)[index]? = some (before ++ query.toList ++ after)) {limit : Nat}
    (hlimit : (lines bytes).length ≤ limit) :
    let line := before ++ query.toList ++ after
    let hit : NoteMatch := ⟨log.fileName, index + 1, String.ofList (trim line)⟩
    ∃ found, log.search query limit disk = .ok found ∧
      (¬Case.CutsSigma before.reverse query.toList after → hit ∈ found) ∧
      (Case.CutsSigma before.reverse query.toList after ↔
        ¬Case.lowerAmid [] before (query.toList ++ after) ++ Case.lower query.toList <+:
          Case.lower line) ∧
      (hit ∈ found ↔ Case.lower query.toList <:+: Case.lower line) := by
  intro line hit
  have hall : (hits log.fileName (Case.lower query.toList) 1 (lines bytes)).take limit =
      hits log.fileName (Case.lower query.toList) 1 (lines bytes) :=
    List.take_of_length_le ((length_hits_le _ _ 1 _).trans hlimit)
  have hmem := mem_hits_iff log.fileName (Case.lower query.toList) hline
  have hplace := Case.prefix_lower_iff before query.toList after
  refine ⟨_, search_of_read? (read?_of_read hread) query limit, ?_, ?_, ?_⟩
  · intro hcut
    rw [Option.getD_some, hall, hmem]
    obtain ⟨rest, hrest⟩ := hplace.mpr hcut
    exact ⟨_, rest, hrest⟩
  · exact not_iff_comm.mp hplace.symm |>.symm
  · rw [Option.getD_some, hall]
    exact hmem

/-- A file of two lines, of which the second has a word that ends with a sigma. -/
def streetBytes : List UInt8 := Utf8.encode "ΚΟΣΜΟΣ\n  Η ΟΔΟΣ ΜΑΣ".toList

def streetDisk : Disk := Disk.empty.put ["work", "notes.md"] (.file streetBytes)

theorem read_streetDisk : streetDisk.read "notes.md" = .ok streetBytes := by rfl

theorem search_copied_streetDisk :
    let log : NoteLog := ⟨"notes.md"⟩
    (streetDisk.read log.path = .ok streetBytes ∧
        (lines streetBytes)[1]? = some ("  Η ".toList ++ "ΟΔΟΣ".toList ++ " ΜΑΣ".toList) ∧
        (lines streetBytes).length ≤ 2 ∧
        ¬Case.CutsSigma "  Η ".toList.reverse "ΟΔΟΣ".toList " ΜΑΣ".toList) ∧
      ∃ found, log.search "ΟΔΟΣ" 2 streetDisk = .ok found ∧
        ⟨"notes.md", 2, "Η ΟΔΟΣ ΜΑΣ"⟩ ∈ found := by
  intro log
  have hread : streetDisk.read log.path = .ok streetBytes := read_streetDisk
  have hline : (lines streetBytes)[1]? =
      some ("  Η ".toList ++ "ΟΔΟΣ".toList ++ " ΜΑΣ".toList) := by decide +kernel
  have hlength : (lines streetBytes).length ≤ 2 := by decide +kernel
  have hcut : ¬Case.CutsSigma "  Η ".toList.reverse "ΟΔΟΣ".toList " ΜΑΣ".toList :=
    Case.lowerAmid_eq_lower_iff.mp (by decide +kernel)
  obtain ⟨found, hfound, hcopied, -⟩ := search_copied hread hline hlength
  have hhit : (⟨log.fileName, 1 + 1, String.ofList (trim
      ("  Η ".toList ++ "ΟΔΟΣ".toList ++ " ΜΑΣ".toList))⟩ : NoteMatch) =
        ⟨"notes.md", 2, "Η ΟΔΟΣ ΜΑΣ"⟩ := by decide +kernel
  exact ⟨⟨hread, hline, hlength, hcut⟩, found, hfound, hhit ▸ hcopied hcut⟩

/-- The first half of a word is not found in the word when it ends with a capital sigma. -/
theorem search_misses_copied :
    let log : NoteLog := ⟨"notes.md"⟩
    (streetDisk.read log.path = .ok streetBytes ∧
        (lines streetBytes)[0]? = some ([] ++ "ΚΟΣ".toList ++ "ΜΟΣ".toList) ∧
        (lines streetBytes).length ≤ 2) ∧
      log.search "ΚΟΣ" 2 streetDisk = .ok [] := by
  intro log
  have hread : streetDisk.read log.path = .ok streetBytes := read_streetDisk
  refine ⟨⟨hread, by decide +kernel, by decide +kernel⟩, ?_⟩
  rw [search_of_read? (read?_of_read hread)]
  exact congrArg Except.ok (by decide +kernel)

end Daybook.NoteLog
