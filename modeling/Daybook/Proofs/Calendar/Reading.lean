import Daybook.Calendar.Scan
import Daybook.Proofs.Calendar.Fields
import Mathlib.Algebra.Group.Nat.Defs

/-!
Written times are read back. The texts of a table stand for the instants that were written if these
have a plain year. Whatever the year, the time of an answer stands for the instant that was written, and the
heading of a note for the second in which it was written.
-/

namespace Daybook

namespace Digits

theorem value_fixed (width n : Nat) : value (fixed width n) = n % 10 ^ width := by
  induction width generalizing n with
  | zero => simp [fixed, value, Nat.mod_one]
  | succ width ih =>
      rw [fixed, value_append_singleton, ih, digitValue_digit, Nat.pow_succ', Nat.mod_mul]
      omega

theorem length_decimal_le {n width : Nat} (h : n < 10 ^ (width + 1)) :
    (decimal n).length ≤ width + 1 := by
  induction width generalizing n with
  | zero =>
      rw [decimal, if_pos (by omega)]
      simp
  | succ width ih =>
      rw [decimal]
      split
      · simp
      · rw [List.length_append, List.length_singleton]
        have := ih (n := n / 10) (by omega)
        omega

end Digits

open Digits

namespace Scan

theorem takeWhile_isDigit_append {ds rest : List Char} (hds : ∀ c ∈ ds, c.isDigit)
    (hrest : ∀ c ∈ rest.head?, c.isDigit = false) :
    (ds ++ rest).takeWhile Char.isDigit = ds := by
  rw [List.takeWhile_append_of_pos hds]
  cases rest with
  | nil => simp
  | cons c rest => simp [hrest c rfl]

theorem dropWhile_isDigit_append {ds rest : List Char} (hds : ∀ c ∈ ds, c.isDigit)
    (hrest : ∀ c ∈ rest.head?, c.isDigit = false) :
    (ds ++ rest).dropWhile Char.isDigit = rest := by
  rw [List.dropWhile_append_of_pos hds]
  cases rest with
  | nil => simp
  | cons c rest => simp [hrest c rfl]

theorem takeWhile_isDigit_fixed (width n : Nat) :
    (fixed width n).takeWhile Char.isDigit = fixed width n := by
  have h : (fixed width n ++ []).takeWhile Char.isDigit = fixed width n :=
    takeWhile_isDigit_append (fun _ => isDigit_of_mem_fixed) (by simp)
  rwa [List.append_nil] at h

theorem digits?_fixed {least width : Nat} (h : least ≤ width) (n : Nat) (rest : List Char) :
    digits? least width (fixed width n ++ rest) = some (n % 10 ^ width, rest) := by
  have hlen := fixed_length width n
  rw [digits?, List.take_left' hlen, takeWhile_isDigit_fixed, hlen, if_neg (by omega), value_fixed,
    List.drop_left' hlen]

theorem fraction?_fixed {width : Nat} (hpos : 0 < width) (hle : width ≤ 9) (n : Nat)
    {rest : List Char} (hrest : ∀ c ∈ rest.head?, c.isDigit = false) :
    fraction? (fixed width n ++ rest) = some (n % 10 ^ width * 10 ^ (9 - width), rest) := by
  have hds : ∀ c ∈ fixed width n, c.isDigit := fun _ => isDigit_of_mem_fixed
  have hlen := fixed_length width n
  have htake : (fixed width n).take 9 = fixed width n := List.take_of_length_le (by omega)
  have hne : (fixed width n).isEmpty = false := by
    rw [List.isEmpty_eq_false_iff, ← List.length_pos_iff]
    omega
  simp only [fraction?, takeWhile_isDigit_append hds hrest, dropWhile_isDigit_append hds hrest,
    htake, hne, value_fixed, hlen, Nat.pow_eq, Bool.false_eq_true, if_false]

theorem optionalFraction?_fractionText {s : Stamp} (hs : s.nano < nanosPerSecond)
    {rest : List Char} (hrest : ∀ c ∈ rest.head?, c.isDigit = false ∧ c ≠ '.') :
    optionalFraction? (s.fractionText ++ rest) = some (s.nano, rest) := by
  have hdigit : ∀ c ∈ rest.head?, c.isDigit = false := fun c hc => (hrest c hc).1
  unfold nanosPerSecond at hs
  unfold Stamp.fractionText
  split
  · rename_i hzero
    rw [List.nil_append, hzero]
    unfold optionalFraction?
    split
    · exact absurd rfl (hrest '.' rfl).2
    · rfl
  · split
    · rw [List.cons_append, optionalFraction?, fraction?_fixed (by decide) (by decide) _ hdigit]
      congr 2
      omega
    · split
      · rw [List.cons_append, optionalFraction?, fraction?_fixed (by decide) (by decide) _ hdigit]
        congr 2
        omega
      · rw [List.cons_append, optionalFraction?, fraction?_fixed (by decide) (by decide) _ hdigit]
        congr 2
        omega

theorem skipBlank_append {ds rest : List Char} (hne : ds ≠ []) (hds : ∀ c ∈ ds, c.isDigit) :
    skipBlank (ds ++ rest) = ds ++ rest := by
  cases ds with
  | nil => exact absurd rfl hne
  | cons c ds =>
      have hc : isBlank c = false := isBlank_of_isDigit (hds c List.mem_cons_self)
      simp [skipBlank, hc]

theorem skipBlank_fixed {width : Nat} (h : 0 < width) (n : Nat) (rest : List Char) :
    skipBlank (fixed width n ++ rest) = fixed width n ++ rest := by
  apply skipBlank_append _ fun _ => isDigit_of_mem_fixed
  rw [← List.length_pos_iff, fixed_length]
  exact h

theorem field?_fixed (n : Nat) (rest : List Char) :
    field? (fixed 2 n ++ rest) = some (n % 10 ^ 2, rest) := by
  rw [field?, skipBlank_fixed (by decide), digits?_fixed (by decide)]

theorem skipBlank_cons {c : Char} (h : isBlank c = false) (text : List Char) :
    skipBlank (c :: text) = c :: text :=
  List.dropWhile_cons_of_neg (by simp [h])

theorem clock?_blank (gap : List Char → List Char) (text : List Char) :
    clock? gap (' ' :: text) = clock? gap text := by
  have hblank : skipBlank (' ' :: text) = skipBlank text := List.dropWhile_cons_of_pos (by decide)
  rw [clock?, field?, hblank]
  rfl

theorem allDigits?_append {ds rest : List Char} (hne : ds ≠ []) (hds : ∀ c ∈ ds, c.isDigit)
    (hlen : ds.length ≤ 18) (hrest : ∀ c ∈ rest.head?, c.isDigit = false) :
    allDigits? (ds ++ rest) = some (value ds, rest) := by
  have hsub : (ds.dropWhile (· == '0')).length ≤ ds.length :=
    (List.dropWhile_sublist _).length_le
  simp only [allDigits?, takeWhile_isDigit_append hds hrest, dropWhile_isDigit_append hds hrest,
    value_dropWhile_zero]
  rw [if_neg]
  simp only [Bool.or_eq_true, List.isEmpty_iff, decide_eq_true_eq, not_or]
  exact ⟨hne, by omega⟩

end Scan

namespace Stamp

variable {s : Stamp} {rest : List Char}

theorem yearText_of_plain {year : Int} (h : 0 ≤ year ∧ year ≤ 9999) :
    yearText year = fixed 4 year.toNat := if_pos h

theorem IsValid.fields_lt (hs : s.IsValid) : s.date.month < 10 ^ 2 ∧ s.date.day < 10 ^ 2 ∧
    s.hour < 10 ^ 2 ∧ s.minute < 10 ^ 2 ∧ s.second < 10 ^ 2 := by
  obtain ⟨⟨_, hmonth, _, hday⟩, _, _, hhour, hminute, hsecond, _⟩ := hs
  have hlength := monthLength_le (isLeapYear s.date.year) s.date.month
  omega

theorem strict?_append (hs : s.IsValid) (hyear : 0 ≤ s.date.year ∧ s.date.year ≤ 9999)
    {fraction zone : List Char} {offset : Int}
    (hfraction : Scan.optionalFraction? (fraction ++ zone) = some (s.nano, zone))
    (hzone : Scan.offset? (Scan.char? ':') zone = some (offset, [])) :
    Scan.strict? (s.dateText ++ 'T' :: s.clockText ++ fraction ++ zone) =
      some (s, offset, []) := by
  have hfour : s.date.year.toNat < 10 ^ 4 := by omega
  obtain ⟨hmonth, hday, hhour, hminute, hsecond⟩ := hs.fields_lt
  simp only [dateText, clockText, yearText_of_plain hyear, List.append_assoc, List.cons_append]
  simp only [Scan.strict?, Scan.digits?_fixed (Nat.le_refl _), Scan.char?, Scan.separator?,
    Option.bind_eq_bind, Option.bind_some, if_true, true_or, hfraction, hzone, Option.pure_def,
    Nat.mod_eq_of_lt hfour, Nat.mod_eq_of_lt hmonth, Nat.mod_eq_of_lt hday, Nat.mod_eq_of_lt hhour,
    Nat.mod_eq_of_lt hminute, Nat.mod_eq_of_lt hsecond, Int.toNat_of_nonneg hyear.1]

/-- A year that is not plain begins with a sign, so that no digit is found. -/
theorem strict?_dateText_of_not_plain (hyear : ¬ (0 ≤ s.date.year ∧ s.date.year ≤ 9999)) :
    Scan.strict? (s.dateText ++ rest) = none := by
  have hdigits : ∀ c text, (c == '-' || c == '+') → Scan.digits? 4 4 (c :: text) = none := by
    intro c text hc
    have hsign : c.isDigit = false := by
      rw [Bool.or_eq_true, beq_iff_eq, beq_iff_eq] at hc
      rcases hc with rfl | rfl <;> decide
    simp [Scan.digits?, hsign]
  rw [dateText, yearText, if_neg hyear]
  simp only [List.cons_append, Scan.strict?, Option.bind_eq_bind]
  rw [hdigits _ _ (by split <;> rfl), Option.bind_none]

theorem allDigits?_year {n : Nat} (h : n < 10 ^ 6) (rest : List Char) :
    Scan.allDigits? ((if n ≤ 9999 then fixed 4 n else decimal n) ++ '-' :: rest) =
      some (n, '-' :: rest) := by
  split
  · rw [Scan.allDigits?_append _ fun _ => isDigit_of_mem_fixed, value_fixed,
      Nat.mod_eq_of_lt (by omega)]
    · rw [fixed_length]
      decide
    · simp
    · rw [← List.length_pos_iff, fixed_length]
      decide
  · rw [Scan.allDigits?_append (decimal_ne_nil n) fun _ => isDigit_of_mem_decimal, value_decimal]
    · exact Nat.le_trans (length_decimal_le h) (by decide)
    · simp

theorem year?_yearText {year : Int} (h : year.natAbs < 10 ^ 6) (rest : List Char) :
    Scan.year? (yearText year ++ '-' :: rest) = some (year, '-' :: rest) := by
  have hdigits := allDigits?_year h rest
  unfold yearText
  split
  · rename_i hplain
    rw [Scan.year?, Scan.skipBlank_fixed (by decide)]
    split
    · rename_i heq
      exact absurd (isDigit_of_fixed_eq_cons (by decide) heq) (by decide)
    · rename_i heq
      exact absurd (isDigit_of_fixed_eq_cons (by decide) heq) (by decide)
    · rw [Scan.digits?_fixed (by decide), Option.map_some, Nat.mod_eq_of_lt (by omega)]
      simp only [Int.toNat_of_nonneg hplain.1]
  · split
    · rename_i hneg
      rw [List.cons_append, Scan.year?, Scan.skipBlank_cons (by decide)]
      simp only [hdigits, Option.map_some]
      congr 2
      omega
    · rename_i hpos
      rw [List.cons_append, Scan.year?, Scan.skipBlank_cons (by decide)]
      simp only [hdigits, Option.map_some]
      congr 2
      omega

section Gap

variable {gap : List Char → List Char}
  (hgap : ∀ {c : Char} (text : List Char), isBlank c = false → gap (c :: text) = c :: text)

include hgap

/-- A date is read back also where white space may stand before a hyphen. -/
theorem date?_dateText (hs : s.IsValid) (rest : List Char) :
    Scan.date? gap (s.dateText ++ rest) = some (s.date, rest) := by
  have hhyphen : ∀ text, gap ('-' :: text) = '-' :: text := fun text => hgap text (by decide)
  have hyear : s.date.year.natAbs < 10 ^ 6 := by
    have := hs.2.1
    have := hs.2.2.1
    omega
  obtain ⟨hmonth, hday, _⟩ := hs.fields_lt
  simp only [dateText, List.append_assoc, List.cons_append, Scan.date?, year?_yearText hyear,
    hhyphen, Scan.char?, Scan.field?_fixed, Option.bind_eq_bind, Option.bind_some, if_true,
    Option.pure_def, Nat.mod_eq_of_lt hmonth, Nat.mod_eq_of_lt hday]

theorem clock?_clockText (hs : s.IsValid) (rest : List Char) :
    Scan.clock? gap (s.clockText ++ rest) = some ((s.hour, s.minute, s.second), rest) := by
  have hcolon : ∀ text, gap (':' :: text) = ':' :: text := fun text => hgap text (by decide)
  obtain ⟨_, _, hhour, hminute, hsecond⟩ := hs.fields_lt
  simp only [clockText, List.append_assoc, List.cons_append, Scan.clock?, hcolon, Scan.char?,
    Scan.field?_fixed, Option.bind_eq_bind, Option.bind_some, if_true, Option.pure_def,
    Nat.mod_eq_of_lt hhour, Nat.mod_eq_of_lt hminute, Nat.mod_eq_of_lt hsecond]

end Gap

theorem relaxed?_append (hs : s.IsValid) :
    Scan.relaxed? (s.dateText ++ 'T' :: s.clockText ++ s.fractionText ++ ['Z']) =
      some (s, 0, []) := by
  have hgap : ∀ {c : Char} (text : List Char), isBlank c = false →
      Scan.skipBlank (c :: text) = c :: text := fun text hc => Scan.skipBlank_cons hc text
  have hfraction : Scan.optionalFraction? (s.fractionText ++ ['Z']) = some (s.nano, ['Z']) := by
    apply Scan.optionalFraction?_fractionText hs.2.2.2.2.2.2
    rintro c ⟨⟩
    decide
  have hoffset : Scan.relaxedOffset? (Scan.skipBlank ['Z']) = some (0, []) := rfl
  rw [List.append_assoc, List.append_assoc]
  simp only [Scan.relaxed?, date?_dateText hgap hs, List.cons_append, Scan.separator?,
    clock?_clockText hgap hs, hfraction, hoffset, Option.bind_eq_bind, Option.bind_some, true_or,
    if_true, Option.pure_def]
  rfl

end Stamp

namespace Instant

theorem ofStoredText?_eq (t : Instant) {text : List Char}
    (h : Scan.strict? text = some (t.stamp, 0, [])) : ofStoredText? text = some t := by
  simp only [ofStoredText?, h, Option.bind_eq_bind, Option.bind_some, List.isEmpty_nil, if_true,
    instant?_stamp]

theorem ofStoredText?_storedText {t : Instant} (h : t.HasPlainYear) :
    ofStoredText? t.storedText = some t := by
  apply ofStoredText?_eq
  apply Stamp.strict?_append t.isValid_stamp h _ (by rfl)
  apply Scan.optionalFraction?_fractionText t.isValid_stamp.2.2.2.2.2.2
  rintro c ⟨⟩
  decide

theorem ofStoredText?_sortableText {t : Instant} (h : t.HasPlainYear) :
    ofStoredText? t.sortableText = some t := by
  have hnano : t.stamp.nano < 10 ^ 9 := t.isValid_stamp.2.2.2.2.2.2
  apply ofStoredText?_eq
  apply Stamp.strict?_append t.isValid_stamp h _ (by rfl)
  rw [List.cons_append, Scan.optionalFraction?, Scan.fraction?_fixed (by decide) (by decide),
    Nat.mod_eq_of_lt hnano]
  · rw [show 10 ^ (9 - 9) = 1 from rfl, Nat.mul_one]
  · rintro c ⟨⟩
    decide

theorem ofHeadingText?_headingText (t : Instant) :
    ofHeadingText? t.headingText = some t.wholeSecond := by
  have hs := t.isValid_stamp
  have hread : Scan.heading? t.headingText = some ({ t.stamp with nano := 0 }, []) := by
    have hgap : ∀ {c : Char} (text : List Char), isBlank c = false → id (c :: text) = c :: text :=
      fun _ _ => rfl
    have hclock := Stamp.clock?_clockText hgap hs []
    rw [List.append_nil] at hclock
    simp only [Scan.heading?, headingText, Stamp.date?_dateText hgap hs, Scan.clock?_blank, hclock,
      Option.bind_eq_bind, Option.bind_some]
    rfl
  rw [ofHeadingText?, hread]
  simp only [Option.bind_eq_bind, Option.bind_some, List.isEmpty_nil, if_true]
  rw [← t.stamp_wholeSecond, instant?_stamp]

/-- The time of an answer is read back, whatever the year and also within a leap second. -/
theorem ofWireText?_wireText (t : Instant) : ofWireText? t.wireText = some t := by
  rw [ofWireText?, wireText, Stamp.relaxed?_append t.isValid_stamp]
  simp only [Option.bind_eq_bind, Option.bind_some, List.isEmpty_nil, if_true, instant?_stamp]

theorem ofStoredText?_of_not_plain {t : Instant} (h : ¬ t.HasPlainYear) (rest : List Char) :
    ofStoredText? (t.stamp.dateText ++ rest) = none := by
  rw [ofStoredText?, Stamp.strict?_dateText_of_not_plain h]
  rfl

theorem ofStoredText?_storedText_eq_none {t : Instant} (h : ¬ t.HasPlainYear) :
    ofStoredText? t.storedText = none := by
  rw [storedText, List.append_assoc, List.append_assoc, ofStoredText?_of_not_plain h]

theorem ofStoredText?_sortableText_eq_none {t : Instant} (h : ¬ t.HasPlainYear) :
    ofStoredText? t.sortableText = none := by
  rw [sortableText, List.append_assoc, List.append_assoc, ofStoredText?_of_not_plain h]

end Instant

end Daybook
