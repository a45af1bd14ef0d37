import Daybook.Json.Parser
import Daybook.Json.Render

namespace Daybook

namespace Digits

theorem head?_decimal_ne_zero {n : Nat} (h : 0 < n) : (decimal n).head? ≠ some '0' := by
  induction n using Nat.strongRecOn with
  | ind n ih =>
      rw [decimal]
      split
      · rename_i hlt
        have : ∀ n < 10, 0 < n → [digit n].head? ≠ some '0' := by decide
        exact this n hlt h
      · obtain ⟨c, ds, hds⟩ := List.exists_cons_of_ne_nil (decimal_ne_nil (n / 10))
        have := ih (n / 10) (by omega) (by omega)
        rw [hds] at this ⊢
        exact this

/-- The value of digits that come after those of a number. -/
def valueFrom (n : Nat) (ds : List Char) : Nat := ds.foldl (fun n c => n * 10 + digitValue c) n

theorem value_cons (c : Char) (ds : List Char) : value (c :: ds) = valueFrom (digitValue c) ds := by
  rw [value, valueFrom, List.foldl_cons, Nat.zero_mul, Nat.zero_add]

theorem valueFrom_cons (n : Nat) (c : Char) (ds : List Char) :
    valueFrom n (c :: ds) = valueFrom (n * 10 + digitValue c) ds := by
  rw [valueFrom, valueFrom, List.foldl_cons]

theorem le_valueFrom (n : Nat) (ds : List Char) : n ≤ valueFrom n ds := by
  induction ds generalizing n with
  | nil => exact Nat.le_refl n
  | cons c ds ih =>
      have := ih (n * 10 + digitValue c)
      rw [valueFrom_cons]
      omega

end Digits

namespace Json

/-- A text with which a number cannot go on. -/
def EndsNumber (rest : List Char) : Prop :=
  ∀ c ∈ rest.head?, c.isDigit = false ∧ c ≠ '.' ∧ c ≠ 'e' ∧ c ≠ 'E'

theorem skipGap_cons {c : Char} (h : isGap c = false) (text : List Char) :
    skipGap (c :: text) = c :: text :=
  List.dropWhile_cons_of_neg (by simp [h])

section Numbers

variable {rest : List Char}

theorem wholeDigits_append {ds : List Char} (hds : ∀ c ∈ ds, c.isDigit) (hrest : EndsNumber rest)
    {significand : Nat} (hfit : Digits.valueFrom significand ds ≤ maxNat64) :
    wholeDigits significand 0 (ds ++ rest) = ((Digits.valueFrom significand ds, 0), rest) := by
  induction ds generalizing significand with
  | nil =>
      cases rest with
      | nil => rfl
      | cons c rest =>
          rw [List.nil_append, wholeDigits, if_pos (by rw [(hrest c rfl).1]; rfl)]
          rfl
  | cons c ds ih =>
      rw [Digits.valueFrom_cons] at hfit ⊢
      have hc : fitsDigit significand c :=
        decide_eq_true (Nat.le_trans (Digits.le_valueFrom _ ds) hfit)
      rw [List.cons_append, wholeDigits, if_neg (by simp [hds c List.mem_cons_self]),
        if_pos (by simp [hc]), ih (fun d hd => hds d (List.mem_cons_of_mem _ hd)) hfit]

theorem numberTail_of_endsNumber (hrest : EndsNumber rest) (negative : Bool) (n : Nat) :
    numberTail negative n 0 rest = .ok (wholeNumber negative n, rest) := by
  unfold numberTail
  split
  · exact absurd rfl (hrest _ rfl).2.1
  · exact absurd rfl (hrest _ rfl).2.2.1
  · exact absurd rfl (hrest _ rfl).2.2.2
  · rfl

theorem number_decimal (negative : Bool) {n : Nat} (hn : n ≤ maxNat64) (hrest : EndsNumber rest) :
    number negative (Digits.decimal n ++ rest) = .ok (wholeNumber negative n, rest) := by
  have hhead : n = 0 ∨ (Digits.decimal n).head? ≠ some '0' :=
    n.eq_zero_or_pos.imp id Digits.head?_decimal_ne_zero
  have hdigits : ∀ c ∈ Digits.decimal n, c.isDigit := fun _ => Digits.isDigit_of_mem_decimal
  have hvalue := Digits.value_decimal n
  rcases hhead with rfl | hhead
  · have hany : rest.head?.any Char.isDigit = false := by
      cases rest with
      | nil => rfl
      | cons c rest => exact (hrest c rfl).1
    rw [show Digits.decimal 0 = ['0'] by rw [Digits.decimal]; rfl, List.singleton_append, number,
      hany, if_neg Bool.false_ne_true]
    exact numberTail_of_endsNumber hrest negative 0
  · cases hdecimal : Digits.decimal n with
    | nil => exact absurd hdecimal (Digits.decimal_ne_nil n)
    | cons c ds =>
        rw [hdecimal] at hdigits hhead hvalue
        rw [Digits.value_cons] at hvalue
        have hne : c ≠ '0' := fun hc => hhead (congrArg some hc)
        have hds : ∀ d ∈ ds, d.isDigit := fun d hd => hdigits d (List.mem_cons_of_mem _ hd)
        rw [List.cons_append, number, if_neg (by simp [hdigits c List.mem_cons_self]),
          wholeDigits_append hds hrest (by rwa [hvalue]), hvalue]
        · exact numberTail_of_endsNumber hrest negative n
        · exact fun h => hne h

end Numbers

section Strings

theorem hexValue?_hexDigit {n : Nat} (h : n < 16) :
    hexValue? (hexDigit n) = some n ∧ (hexDigit n).utf8Size = 1 := by
  have : ∀ n < 16, hexValue? (hexDigit n) = some n ∧ (hexDigit n).utf8Size = 1 := by decide
  exact this n h

theorem stringFrom_digit {n : Nat} (hn : n < 16) (value bytes : Nat) (h : bytes < 3)
    (done text : List Char) :
    stringFrom (.unit none (some value) bytes) done (hexDigit n :: text) =
      stringFrom (.unit none (some (value * 16 + n)) (bytes + 1)) done text := by
  obtain ⟨hvalue, hsize⟩ := hexValue?_hexDigit hn
  rw [stringFrom, hvalue, hsize]
  exact if_pos (by omega)

theorem stringFrom_lastDigit {n : Nat} (hn : n < 16) (value : Nat) (hvalue : value * 16 + n < 0xD800)
    (done text : List Char) :
    stringFrom (.unit none (some value) 3) done (hexDigit n :: text) =
      stringFrom .plain (Char.ofNat (value * 16 + n) :: done) text := by
  obtain ⟨hdigit, hsize⟩ := hexValue?_hexDigit hn
  have hend : endUnit none (some (value * 16 + n)) =
      .ok (.plain, some (Char.ofNat (value * 16 + n))) := by
    simp only [endUnit, isTrailing, isLeading, Bool.and_eq_true, decide_eq_true_eq]
    rw [if_neg (by omega), if_neg (by omega)]
  rw [stringFrom, hdigit, hsize, if_neg (by decide)]
  simp only [Option.bind_eq_bind, Option.bind_some, Option.pure_def, hend]

theorem stringFrom_unit {high low : Nat} (hhigh : high < 16) (hlow : low < 16)
    (done text : List Char) :
    stringFrom .plain done ('\\' :: 'u' :: '0' :: '0' :: hexDigit high :: hexDigit low :: text) =
      stringFrom .plain (Char.ofNat (high * 16 + low) :: done) text := by
  have hzero : '0' = hexDigit 0 := by decide
  rw [stringFrom, if_neg (by decide), if_pos rfl, stringFrom, if_pos rfl, hzero,
    stringFrom_digit (by decide) _ _ (by decide), stringFrom_digit (by decide) _ _ (by decide),
    stringFrom_digit hhigh _ _ (by decide), stringFrom_lastDigit hlow _ (by omega)]
  simp only [Nat.zero_mul, Nat.zero_add]

theorem stringFrom_escape (c : Char) (done text : List Char) :
    stringFrom .plain done (escape c ++ text) = stringFrom .plain (c :: done) text := by
  unfold escape
  split
  any_goals rfl
  rename_i hquote hslash _ _ _ _ _
  split
  · rename_i hlow
    have hc : Char.ofNat (c.toNat / 16 * 16 + c.toNat % 16) = c := by
      rw [Nat.div_add_mod', Char.ofNat_toNat]
    simp only [List.cons_append, List.nil_append]
    rw [stringFrom_unit (by omega) (by omega), hc]
  · rename_i hplain
    rw [List.singleton_append, stringFrom, if_neg hquote, if_neg hslash, if_neg hplain]

theorem stringFrom_flatMap_escape (chars done rest : List Char) :
    stringFrom .plain done (chars.flatMap escape ++ '"' :: rest) =
      .ok (String.ofList (done.reverse ++ chars), rest) := by
  induction chars generalizing done with
  | nil => rw [List.flatMap_nil, List.nil_append, stringFrom, if_pos rfl, List.append_nil]
  | cons c chars ih =>
      rw [List.flatMap_cons, List.append_assoc, stringFrom_escape, ih, List.reverse_cons,
        List.append_assoc, List.singleton_append]

theorem string_quoted (s : String) (rest : List Char) :
    ∃ text, quoted s ++ rest = '"' :: text ∧ string text = .ok (s, rest) := by
  refine ⟨s.toList.flatMap escape ++ '"' :: rest, ?_, ?_⟩
  · rw [quoted, List.append_assoc, List.cons_append, List.singleton_append]
  · rw [string, stringFrom_flatMap_escape, List.reverse_nil, List.nil_append, String.ofList_toList]

end Strings

end Json

end Daybook
