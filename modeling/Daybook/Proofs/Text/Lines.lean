import Daybook.Proofs.Text.Encoding
import Daybook.Text.Lines

namespace Daybook

theorem not_mem_of_mem_splitOn {mark : Char} {text piece : List Char}
    (h : piece ∈ text.splitOn mark) : mark ∉ piece := by
  induction text generalizing piece with
  | nil =>
      rw [List.splitOn_nil, List.mem_singleton] at h
      exact h ▸ List.not_mem_nil
  | cons c text ih =>
      rw [List.splitOn_cons_eq_if_modifyHead] at h
      split at h
      · rcases List.mem_cons.mp h with rfl | h
        · exact List.not_mem_nil
        · exact ih h
      · rename_i hc
        cases hsplit : text.splitOn mark with
        | nil => exact absurd hsplit (List.splitOn_ne_nil _ _)
        | cons first rest =>
            rw [hsplit] at ih
            rw [hsplit, List.modifyHead_cons] at h
            rcases List.mem_cons.mp h with rfl | h
            · intro hmem
              rcases List.mem_cons.mp hmem with rfl | hmem
              · simp at hc
              · exact ih List.mem_cons_self hmem
            · exact ih (List.mem_cons_of_mem _ h)

theorem finish_foldl_push (done : List Line) (current bytes : List UInt8) :
    (bytes.foldl LineCutter.push ⟨done, current⟩).finish =
      done.reverse ++ (bytes.foldl LineCutter.push ⟨[], current⟩).finish := by
  induction bytes generalizing done current with
  | nil => cases current <;> simp [LineCutter.finish]
  | cons b bytes ih =>
      simp only [List.foldl_cons, LineCutter.push]
      split
      · rw [ih, ih [_]]
        simp
      · rw [ih]

theorem foldl_push_of_not_mem {bytes : List UInt8} (h : lineFeed ∉ bytes) (done : List Line)
    (current : List UInt8) :
    bytes.foldl LineCutter.push ⟨done, current⟩ = ⟨done, bytes.reverse ++ current⟩ := by
  induction bytes generalizing current with
  | nil => rfl
  | cons b bytes ih =>
      rw [List.mem_cons, not_or] at h
      rw [List.foldl_cons, LineCutter.push, if_neg (Ne.symm h.1), ih h.2]
      simp

theorem linesOf_append_feed (bytes rest : List UInt8) :
    linesOf (bytes ++ lineFeed :: rest) = linesOf (bytes ++ [lineFeed]) ++ linesOf rest := by
  simp only [linesOf, List.foldl_append, List.foldl_cons, List.foldl_nil, LineCutter.push, if_true]
  rw [finish_foldl_push]
  rfl

theorem linesOf_append {bytes : List UInt8} (h : bytes = [] ∨ bytes.getLast? = some lineFeed)
    (more : List UInt8) : linesOf (bytes ++ more) = linesOf bytes ++ linesOf more := by
  rcases h with rfl | h
  · rfl
  · obtain ⟨before, rfl⟩ := List.getLast?_eq_some_iff.mp h
    rw [List.append_assoc, List.singleton_append, linesOf_append_feed]

theorem linesOf_cons_of_not_mem {bytes : List UInt8} (h : lineFeed ∉ bytes) :
    linesOf (bytes ++ [lineFeed]) = [⟨bytes, true⟩] := by
  rw [linesOf, List.foldl_append, foldl_push_of_not_mem h]
  simp [LineCutter.push, LineCutter.finish]

theorem linesOf_of_not_mem {bytes : List UInt8} (hne : bytes ≠ []) (h : lineFeed ∉ bytes) :
    linesOf bytes = [⟨bytes, false⟩] := by
  rw [linesOf, foldl_push_of_not_mem h, List.append_nil]
  cases hreverse : bytes.reverse with
  | nil => exact absurd (List.reverse_eq_nil_iff.mp hreverse) hne
  | cons b before =>
      have hbytes : (b :: before).reverse = bytes := by rw [← hreverse, List.reverse_reverse]
      rw [LineCutter.finish, hbytes]
      rfl

theorem linesOf_feed {piece : List UInt8} (h : lineFeed ∉ piece) (rest : List UInt8) :
    linesOf (piece ++ lineFeed :: rest) = ⟨piece, true⟩ :: linesOf rest := by
  rw [linesOf_append_feed, linesOf_cons_of_not_mem h]
  rfl

theorem linesOf_cases {bytes : List UInt8} (hne : bytes ≠ []) :
    (lineFeed ∉ bytes ∧ linesOf bytes = [⟨bytes, false⟩]) ∨
      ∃ piece rest, bytes = piece ++ lineFeed :: rest ∧ lineFeed ∉ piece ∧
        linesOf bytes = ⟨piece, true⟩ :: linesOf rest := by
  by_cases hmem : lineFeed ∈ bytes
  · obtain ⟨piece, rest, rfl, hpiece⟩ := List.eq_append_cons_of_mem hmem
    exact .inr ⟨piece, rest, rfl, hpiece, linesOf_feed hpiece rest⟩
  · exact .inl ⟨hmem, linesOf_of_not_mem hne hmem⟩

/-- Induction on the lines of bytes: none, a last one without a line feed, or one before others. -/
@[elab_as_elim]
theorem byLines {motive : List UInt8 → Prop} (nil : motive [])
    (last : ∀ {bytes}, bytes ≠ [] → lineFeed ∉ bytes → motive bytes)
    (feed : ∀ {piece rest}, lineFeed ∉ piece → motive rest → motive (piece ++ lineFeed :: rest))
    (bytes : List UInt8) : motive bytes := by
  induction hlength : bytes.length using Nat.strongRecOn generalizing bytes with
  | ind length ih =>
      subst hlength
      by_cases hne : bytes = []
      · rw [hne]
        exact nil
      · rcases linesOf_cases hne with ⟨hmem, -⟩ | ⟨piece, rest, rfl, hpiece, -⟩
        · exact last hne hmem
        · refine feed hpiece (ih rest.length ?_ rest rfl)
          rw [List.length_append, List.length_cons]
          omega

/-- The lines of bytes are their pieces between line feeds. The piece after the last line feed is a
line only if it is not empty. -/
theorem linesOf_eq_splitOn (bytes : List UInt8) :
    linesOf bytes = (bytes.splitOn lineFeed).dropLast.map (Line.mk · true) ++
      ((bytes.splitOn lineFeed).getLast?.toList.filter (· ≠ [])).map (Line.mk · false) := by
  induction bytes using byLines with
  | nil => rfl
  | last hne hmem =>
      rw [linesOf_of_not_mem hne hmem, List.splitOn_eq_singleton hmem]
      simp [hne]
  | feed hpiece ih =>
      rename_i piece rest
      have hrest := List.splitOn_ne_nil lineFeed rest
      rw [linesOf_feed hpiece, List.splitOn_append_cons_self_of_not_mem hpiece,
        List.dropLast_cons_of_ne_nil hrest, List.getLast?_cons_of_ne_nil hrest, ih]
      rfl

/-- A piece before a line feed without the carriage return that may end it. -/
def chomp (piece : List UInt8) : List UInt8 :=
  if piece.getLast? = some carriageReturn then piece.dropLast else piece

/-- The lines of a file: its pieces between line feeds, each without the carriage return before its
line feed. What stands after the last line feed is a line as it is, unless there is nothing. -/
def physicalLines (bytes : List UInt8) : List (List UInt8) :=
  (bytes.splitOn lineFeed).dropLast.map chomp ++
    (bytes.splitOn lineFeed).getLast?.toList.filter (· ≠ [])

theorem content_linesOf (bytes : List UInt8) :
    (linesOf bytes).map Line.content = physicalLines bytes := by
  have hfeed : ∀ piece, Line.content ⟨piece, true⟩ = chomp piece := by
    intro piece
    simp [Line.content, chomp]
  have hlast : ∀ piece, Line.content ⟨piece, false⟩ = piece := fun _ => rfl
  rw [linesOf_eq_splitOn, physicalLines, List.map_append, List.map_map, List.map_map]
  simp [Function.comp_def, hfeed, hlast]

/-- The bytes of a line with its line feed, where it has one. -/
def Line.raw (line : Line) : List UInt8 :=
  if line.terminated then line.bytes ++ [lineFeed] else line.bytes

theorem linesOf_flatMap_raw_take (bytes : List UInt8) (k : Nat) :
    linesOf (((linesOf bytes).take k).flatMap Line.raw) = (linesOf bytes).take k := by
  induction bytes using byLines generalizing k with
  | nil => cases k <;> rfl
  | last hne hmem =>
      cases k with
      | zero => rfl
      | succ k =>
          rw [linesOf_of_not_mem hne hmem]
          simpa [Line.raw] using linesOf_of_not_mem hne hmem
  | feed hpiece ih =>
      cases k with
      | zero => rfl
      | succ k =>
          rw [linesOf_feed hpiece, List.take_succ_cons, List.flatMap_cons, Line.raw, if_pos rfl,
            List.append_assoc, List.singleton_append, linesOf_feed hpiece, ih]

theorem flatMap_raw_linesOf (bytes : List UInt8) : (linesOf bytes).flatMap Line.raw = bytes := by
  induction bytes using byLines with
  | nil => rfl
  | last hne hmem => simp [linesOf_of_not_mem hne hmem, Line.raw]
  | feed hpiece ih => simp [linesOf_feed hpiece, Line.raw, ih]

theorem flatMap_raw_take_prefix (bytes : List UInt8) (k : Nat) :
    ((linesOf bytes).take k).flatMap Line.raw <+: bytes := by
  have hsplit : (linesOf bytes).take k ++ (linesOf bytes).drop k = linesOf bytes :=
    List.take_append_drop k (linesOf bytes)
  have hbytes := flatMap_raw_linesOf bytes
  rw [← hsplit, List.flatMap_append] at hbytes
  exact ⟨_, hbytes⟩

theorem current_foldl_push (done : List Line) (current bytes : List UInt8) :
    (bytes.foldl LineCutter.push ⟨done, current⟩).current.reverse <:+ current.reverse ++ bytes := by
  induction bytes generalizing done current with
  | nil => simp
  | cons b bytes ih =>
      simp only [List.foldl_cons, LineCutter.push]
      split
      · refine (ih _ []).trans ?_
        exact ⟨current.reverse ++ [b], by simp⟩
      · have := ih done (b :: current)
        rwa [List.reverse_cons, List.append_assoc] at this

/-- A line feed after bytes that do not end with a carriage return leaves their lines as they are, but
for an empty line when there is nothing to be ended. -/
theorem content_linesOf_append_feed {bytes : List UInt8}
    (h : bytes.getLast? ≠ some carriageReturn) :
    (linesOf (bytes ++ [lineFeed])).map Line.content = (linesOf bytes).map Line.content ∨
      (linesOf (bytes ++ [lineFeed])).map Line.content =
        (linesOf bytes).map Line.content ++ [[]] := by
  have hsuffix := current_foldl_push [] [] bytes
  simp only [linesOf, List.foldl_append, List.foldl_cons, List.foldl_nil, LineCutter.push, if_true]
  generalize bytes.foldl LineCutter.push ⟨[], []⟩ = s at hsuffix
  obtain ⟨done, current⟩ := s
  cases current with
  | nil => exact .inr (by simp [LineCutter.finish, Line.content])
  | cons b current =>
      left
      obtain ⟨before, hbytes⟩ := hsuffix
      have hlast : (b :: current).reverse.getLast? ≠ some carriageReturn := by
        rw [List.reverse_nil, List.nil_append] at hbytes
        rw [← hbytes] at h
        simpa using h
      have hcontent : Line.content ⟨(b :: current).reverse, true⟩ =
          Line.content ⟨(b :: current).reverse, false⟩ := by
        simp only [Line.content, Bool.true_and, Bool.false_and, beq_iff_eq, if_neg hlast,
          Bool.false_eq_true, if_false]
      simp only [LineCutter.finish, List.reverse_cons, List.map_append,
        List.map_cons, List.map_nil] at hcontent ⊢
      rw [hcontent]

namespace Utf8

theorem encodeChar_of_mem {c : Char} {b : UInt8} (hb : b ∈ encodeChar c) (hlt : b.toNat < 0x80) :
    c.toNat = b.toNat := by
  unfold encodeChar at hb
  dsimp only at hb
  split at hb
  · rw [List.mem_singleton.mp hb, toNat_byte (by omega)]
  · exfalso
    have hbyte : ∀ k : Nat, k % 256 = (UInt8.ofNat k).toNat := fun _ => rfl
    have hvalid : c.toNat < 0xD800 ∨ 0xDFFF < c.toNat ∧ c.toNat < 0x110000 := c.valid
    split at hb
    · simp only [List.mem_cons, List.not_mem_nil, or_false] at hb
      rcases hb with rfl | rfl <;> rw [← hbyte] at hlt <;> omega
    · split at hb
      · simp only [List.mem_cons, List.not_mem_nil, or_false] at hb
        rcases hb with rfl | rfl | rfl <;> rw [← hbyte] at hlt <;> omega
      · simp only [List.mem_cons, List.not_mem_nil, or_false] at hb
        rcases hb with rfl | rfl | rfl | rfl <;> rw [← hbyte] at hlt <;> omega

theorem encodeChar_ne_nil (c : Char) : encodeChar c ≠ [] := by
  unfold encodeChar
  dsimp only
  repeat' split
  all_goals exact List.cons_ne_nil _ _

theorem encode_append (a b : List Char) : encode (a ++ b) = encode a ++ encode b :=
  List.flatMap_append

theorem eq_of_mem_encodeChar {c d : Char} {b : UInt8} (hd : d.toNat = b.toNat)
    (hlt : b.toNat < 0x80) (hb : b ∈ encodeChar c) : c = d := by
  have := encodeChar_of_mem hb hlt
  rw [← Char.ofNat_toNat c, ← Char.ofNat_toNat d, this, hd]

theorem lineFeed_not_mem_encode {text : List Char} (h : '\n' ∉ text) :
    lineFeed ∉ encode text := by
  intro hmem
  obtain ⟨c, hc, hb⟩ := List.mem_flatMap.mp hmem
  rw [eq_of_mem_encodeChar (d := '\n') rfl (by decide) hb] at hc
  exact h hc

end Utf8

def stripReturn (text : List Char) : List Char :=
  if text.getLast? = some '\r' then text.dropLast else text

theorem getLast?_encode_eq_return_iff (text : List Char) :
    (Utf8.encode text).getLast? = some carriageReturn ↔ text.getLast? = some '\r' := by
  rcases List.eq_nil_or_concat text with rfl | ⟨before, c, rfl⟩
  · simp [Utf8.encode]
  · have hencode : Utf8.encode [c] = Utf8.encodeChar c := by simp [Utf8.encode]
    rw [List.concat_eq_append, Utf8.encode_append, hencode, List.getLast?_append,
      List.getLast?_concat]
    constructor
    · intro h
      cases hlast : (Utf8.encodeChar c).getLast? with
      | none => exact absurd (List.getLast?_eq_none_iff.mp hlast) (Utf8.encodeChar_ne_nil c)
      | some b =>
          rw [hlast, Option.some_or] at h
          cases h
          have hmem := List.mem_of_getLast? hlast
          rw [Utf8.eq_of_mem_encodeChar (d := '\r') rfl (by decide) hmem]
    · intro h
      cases h
      rfl

theorem content_encode (text : List Char) :
    Line.content ⟨Utf8.encode text, true⟩ = Utf8.encode (stripReturn text) := by
  have hiff := getLast?_encode_eq_return_iff text
  by_cases hlast : text.getLast? = some '\r'
  · obtain ⟨before, rfl⟩ : ∃ before, text = before ++ ['\r'] := List.getLast?_eq_some_iff.mp hlast
    simp only [Line.content, hiff.mpr hlast, stripReturn, hlast, beq_self_eq_true, Bool.and_self,
      if_true]
    rw [Utf8.encode_append, List.dropLast_concat]
    exact List.dropLast_concat
  · have hbytes : ¬ (Utf8.encode text).getLast? = some carriageReturn := fun h => hlast (hiff.mp h)
    simp only [Line.content, stripReturn, if_neg hlast, Bool.true_and, beq_iff_eq, if_neg hbytes]

theorem linesOf_encode_feed {text : List Char} (h : '\n' ∉ text) (rest : List UInt8) :
    linesOf (Utf8.encode text ++ lineFeed :: rest) =
      ⟨Utf8.encode text, true⟩ :: linesOf rest :=
  linesOf_feed (Utf8.lineFeed_not_mem_encode h) rest

theorem content_linesOf_intercalate {pieces : List (List Char)} (hne : pieces ≠ [])
    (h : ∀ piece ∈ pieces, '\n' ∉ piece) (rest : List UInt8) :
    (linesOf (Utf8.encode (['\n'].intercalate pieces) ++ lineFeed :: rest)).map Line.content =
      pieces.map (fun piece => Utf8.encode (stripReturn piece)) ++
        (linesOf rest).map Line.content := by
  induction pieces with
  | nil => exact absurd rfl hne
  | cons piece pieces ih =>
      have hpiece := h piece List.mem_cons_self
      cases pieces with
      | nil =>
          rw [List.intercalate_singleton, linesOf_encode_feed hpiece]
          simp [content_encode]
      | cons next pieces =>
          have ih := ih (List.cons_ne_nil _ _) fun p hp => h p (List.mem_cons_of_mem _ hp)
          have hfeed : Utf8.encode ['\n'] = [lineFeed] := rfl
          rw [List.intercalate_cons_cons, Utf8.encode_append, Utf8.encode_append, hfeed,
            List.append_assoc, List.append_assoc, List.singleton_append,
            linesOf_encode_feed hpiece, List.map_cons, ih, content_encode]
          rfl

end Daybook
