import Daybook.Proofs.Json.Scalars
import Mathlib.Data.List.Induction
import Mathlib.Data.List.TakeWhile

namespace Daybook.Json

/-- Digits, one or more. -/
def IsDigits (ds : List Char) : Prop := ds ≠ [] ∧ ∀ c ∈ ds, c.isDigit

/-- A text that goes on with something else than a digit, or ends. -/
def StopsDigits (rest : List Char) : Prop := ∀ c ∈ rest.head?, c.isDigit = false

/-- The digits before a point: a zero stands alone. -/
def IsWhole (whole : List Char) : Prop :=
  IsDigits whole ∧ (whole.head? = some '0' → whole = ['0'])

/-- A point with digits after it, or nothing. -/
def IsFraction (fraction : List Char) : Prop :=
  fraction = [] ∨ ∃ ds, IsDigits ds ∧ fraction = '.' :: ds

/-- A letter with digits after it and perhaps a sign between them, or nothing. -/
def IsExponent (exponent : List Char) : Prop :=
  exponent = [] ∨ ∃ letter sign ds, (letter = 'e' ∨ letter = 'E') ∧
    (sign = [] ∨ sign = ['+'] ∨ sign = ['-']) ∧ IsDigits ds ∧ exponent = letter :: (sign ++ ds)

/-- A numeral as it is written: a sign if it is negative, the digits before the point, a fraction,
and an exponent. -/
structure Numeral where
  negative : Bool
  whole : List Char
  fraction : List Char
  exponent : List Char
  isWhole : IsWhole whole
  isFraction : IsFraction fraction
  isExponent : IsExponent exponent

namespace Numeral

def unsigned (n : Numeral) : List Char := n.whole ++ (n.fraction ++ n.exponent)

def text (n : Numeral) : List Char := if n.negative then '-' :: n.unsigned else n.unsigned

/-- The integer of the digits before the point. -/
def value (n : Numeral) : Int :=
  if n.negative then -(Digits.value n.whole : Int) else Digits.value n.whole

/-- There is no fraction and no exponent, and the numeral is not a negative zero. -/
def IsInteger (n : Numeral) : Prop :=
  n.fraction = [] ∧ n.exponent = [] ∧ n.text ≠ ['-', '0']

/-- What a numeral is read as. -/
inductive IsReadAs (n : Numeral) : Json → Prop where
  | integer (h : n.IsInteger) (low : minInt64 ≤ n.value) (high : n.value ≤ maxNat64) :
      IsReadAs n (.int n.value)
  | float (h : n.IsInteger → n.value < minInt64 ∨ maxNat64 < n.value) (bits : UInt64) :
      IsReadAs n (.float bits)

end Numeral

/-- A text with which a numeral that has this fraction and this exponent cannot go on. -/
structure EndsAfter (fraction exponent rest : List Char) : Prop where
  stopsDigits : StopsDigits rest
  ne_letter : exponent = [] → ∀ c ∈ rest.head?, c ≠ 'e' ∧ c ≠ 'E'
  ne_point : fraction = [] → exponent = [] → ∀ c ∈ rest.head?, c ≠ '.'

section Digits

variable {ds es rest other : List Char}

theorem stopsDigits_cons {c : Char} (h : c.isDigit = false) (rest : List Char) :
    StopsDigits (c :: rest) := by
  rintro d ⟨⟩
  exact h

theorem takeWhile_append_of_stopsDigits (hds : ∀ c ∈ ds, c.isDigit) (h : StopsDigits rest) :
    (ds ++ rest).takeWhile Char.isDigit = ds := by
  rw [List.takeWhile_append_of_pos hds]
  cases rest with
  | nil => rw [List.takeWhile_nil, List.append_nil]
  | cons c rest => rw [List.takeWhile_cons_of_neg (by simp [h c rfl]), List.append_nil]

theorem digits_unique (hds : ∀ c ∈ ds, c.isDigit) (hes : ∀ c ∈ es, c.isDigit)
    (hrest : StopsDigits rest) (hother : StopsDigits other) (h : ds ++ rest = es ++ other) :
    ds = es ∧ rest = other := by
  have hsame : ds = es := by
    rw [← takeWhile_append_of_stopsDigits hds hrest, h, takeWhile_append_of_stopsDigits hes hother]
  exact ⟨hsame, List.append_cancel_left (hsame ▸ h)⟩

theorem stopsDigits_dropWhile (text : List Char) : StopsDigits (text.dropWhile Char.isDigit) := by
  intro c hc
  have := List.head?_dropWhile_not Char.isDigit text
  rw [Option.mem_def.mp hc] at this
  simpa using this

theorem exists_digits {c : Char} (h : c.isDigit) (text : List Char) :
    ∃ ds, IsDigits (c :: ds) ∧ text = ds ++ text.dropWhile Char.isDigit := by
  refine ⟨text.takeWhile Char.isDigit, ⟨List.cons_ne_nil _ _, ?_⟩,
    List.takeWhile_append_dropWhile.symm⟩
  exact List.forall_mem_cons.mpr ⟨h, fun d hd => List.mem_takeWhile_imp hd⟩

end Digits

section Reading

variable {negative : Bool} {d : Decimal} {text rest : List Char} {j : Json}

def IsFloat (j : Json) : Prop := ∃ bits, j = .float bits

theorem wholeDigits_snd (significand dropped : Nat) (text : List Char) :
    (wholeDigits significand dropped text).2 = text.dropWhile Char.isDigit := by
  induction text generalizing significand dropped with
  | nil => rfl
  | cons c text ih =>
      rw [wholeDigits]
      split
      · rename_i hc
        rw [List.dropWhile_cons_of_neg (by simpa using hc)]
      · rename_i hc
        rw [List.dropWhile_cons_of_pos (by simpa using hc)]
        split <;> exact ih _ _

theorem fractionDigits_snd (significand places : Nat) (text : List Char) :
    (fractionDigits significand places text).2 = text.dropWhile Char.isDigit := by
  induction text generalizing significand places with
  | nil => rfl
  | cons c text ih =>
      rw [fractionDigits]
      split
      · rename_i hc
        rw [List.dropWhile_cons_of_neg (by simpa using hc)]
      · rename_i hc
        rw [List.dropWhile_cons_of_pos (by simpa using hc)]
        split
        · exact ih _ _
        · rfl

theorem exponentDigits_snd (n : Nat) (text : List Char) :
    (exponentDigits n text).2.dropWhile Char.isDigit = text.dropWhile Char.isDigit ∧
      ∀ m, (exponentDigits n text).1 = .value m →
        (exponentDigits n text).2 = text.dropWhile Char.isDigit := by
  induction text generalizing n with
  | nil => exact ⟨rfl, fun _ _ => rfl⟩
  | cons c text ih =>
      rw [exponentDigits]
      split
      · rename_i hc
        rw [List.dropWhile_cons_of_neg (by simpa using hc)]
        exact ⟨rfl, fun _ _ => rfl⟩
      · rename_i hc
        rw [List.dropWhile_cons_of_pos (by simpa using hc)]
        split
        · exact ih _
        · exact ⟨rfl, nofun⟩

theorem floatNumber_eq_ok (h : floatNumber negative d text = .ok (j, rest)) :
    IsFloat j ∧ rest = text := by
  unfold floatNumber at h
  split at h
  · cases h
    exact ⟨⟨_, rfl⟩, rfl⟩
  · cases h

theorem exponentPart_digits (h : exponentPart negative d text = .ok (j, rest)) :
    IsFloat j ∧ ∃ sign c digits, (sign = [] ∨ sign = ['+'] ∨ sign = ['-']) ∧ c.isDigit ∧
      text = sign ++ c :: digits ∧ rest = digits.dropWhile Char.isDigit := by
  unfold exponentPart at h
  split at h
  rename_i down unsigned hsign
  have hunsigned : ∃ sign, (sign = [] ∨ sign = ['+'] ∨ sign = ['-']) ∧ text = sign ++ unsigned := by
    split at hsign <;> cases hsign
    · exact ⟨['+'], .inr (.inl rfl), rfl⟩
    · exact ⟨['-'], .inr (.inr rfl), rfl⟩
    · exact ⟨[], .inl rfl, rfl⟩
  clear hsign
  obtain ⟨sign, hsign, rfl⟩ := hunsigned
  split at h
  · cases h
  · rename_i c digits
    split at h
    · cases h
    · rename_i hc
      obtain ⟨hbeyond, hvalue⟩ := exponentDigits_snd (Digits.digitValue c) digits
      have hread : IsFloat j ∧ rest = digits.dropWhile Char.isDigit := by
        split at h
        · rename_i heq
          rw [heq] at hvalue
          obtain ⟨hj, hrest⟩ := floatNumber_eq_ok h
          exact ⟨hj, hrest.trans (hvalue _ rfl)⟩
        · rename_i heq
          rw [heq] at hbeyond
          split at h
          · cases h
          · cases h
            exact ⟨⟨_, rfl⟩, hbeyond⟩
      exact ⟨hread.1, sign, c, digits, hsign, by simpa using hc, rfl, hread.2⟩

theorem exponentPart_eq_ok (h : exponentPart negative d text = .ok (j, rest)) :
    IsFloat j ∧ StopsDigits rest ∧ ∃ sign ds, (sign = [] ∨ sign = ['+'] ∨ sign = ['-']) ∧
      IsDigits ds ∧ text = sign ++ ds ++ rest := by
  obtain ⟨hj, sign, c, digits, hsign, hc, rfl, rfl⟩ := exponentPart_digits h
  obtain ⟨ds, hds, hdigits⟩ := exists_digits hc digits
  refine ⟨hj, stopsDigits_dropWhile digits, sign, c :: ds, hsign, hds, ?_⟩
  rw [List.append_assoc, List.cons_append, ← hdigits]

theorem exponentPart_letter {letter : Char} (hletter : letter = 'e' ∨ letter = 'E')
    (h : exponentPart negative d text = .ok (j, rest)) :
    IsFloat j ∧ ∃ exponent, exponent ≠ [] ∧ IsExponent exponent ∧
      letter :: text = exponent ++ rest ∧ ∀ fraction, EndsAfter fraction exponent rest := by
  obtain ⟨hj, hrest, sign, ds, hsign, hds, rfl⟩ := exponentPart_eq_ok h
  exact ⟨hj, letter :: (sign ++ ds), List.cons_ne_nil _ _,
    .inr ⟨letter, sign, ds, hletter, hsign, hds, rfl⟩, rfl, fun _ => ⟨hrest, nofun, nofun⟩⟩

theorem optionalExponent_eq_ok (hstops : StopsDigits text)
    (h : optionalExponent negative d text = .ok (j, rest)) :
    IsFloat j ∧ ∃ exponent, IsExponent exponent ∧ text = exponent ++ rest ∧
      ∀ fraction, fraction ≠ [] → EndsAfter fraction exponent rest := by
  unfold optionalExponent at h
  split at h
  · obtain ⟨hj, exponent, -, hexponent, htext, hends⟩ := exponentPart_letter (.inl rfl) h
    exact ⟨hj, exponent, hexponent, htext, fun fraction _ => hends fraction⟩
  · obtain ⟨hj, exponent, -, hexponent, htext, hends⟩ := exponentPart_letter (.inr rfl) h
    exact ⟨hj, exponent, hexponent, htext, fun fraction _ => hends fraction⟩
  · rename_i hsmall hlarge
    obtain ⟨hj, rfl⟩ := floatNumber_eq_ok h
    refine ⟨hj, [], .inl rfl, rfl, fun fraction hfraction => ⟨hstops, fun _ c hc => ?_, ?_⟩⟩
    · obtain ⟨later, rfl⟩ := List.head?_eq_some_iff.mp hc
      exact ⟨fun heq => hsmall later (heq ▸ rfl), fun heq => hlarge later (heq ▸ rfl)⟩
    · exact fun hnil => absurd hnil hfraction

theorem fractionPart_eq_ok (h : fractionPart negative d text = .ok (j, rest)) :
    IsFloat j ∧ ∃ ds exponent, IsDigits ds ∧ IsExponent exponent ∧ text = ds ++ (exponent ++ rest) ∧
      EndsAfter ('.' :: ds) exponent rest := by
  unfold fractionPart at h
  split at h
  · cases h
  · rename_i c digits
    split at h
    · cases h
    · rename_i hc
      obtain ⟨ds, hds, hdigits⟩ := exists_digits (by simpa using hc) digits
      have hsnd := fractionDigits_snd d.significand 0 (c :: digits)
      rw [List.dropWhile_cons_of_pos (by simpa using hc)] at hsnd
      split at h
      rename_i hfraction
      rw [hfraction] at hsnd
      dsimp only at hsnd
      subst hsnd
      obtain ⟨hj, exponent, hexponent, hlater, hends⟩ :=
        optionalExponent_eq_ok (stopsDigits_dropWhile digits) h
      refine ⟨hj, c :: ds, exponent, hds, hexponent, ?_, hends _ (List.cons_ne_nil _ _)⟩
      rw [List.cons_append, ← hlater, ← hdigits]

/-- What stands after the digits before a point, and what is made of them: an integer if nothing does
and none was dropped, and a binary64 number otherwise. -/
theorem numberTail_eq_ok {significand dropped : Nat} (hstops : StopsDigits text)
    (h : numberTail negative significand dropped text = .ok (j, rest)) :
    ∃ fraction exponent, IsFraction fraction ∧ IsExponent exponent ∧
      text = fraction ++ (exponent ++ rest) ∧ EndsAfter fraction exponent rest ∧
      ((fraction = [] ∧ exponent = [] ∧ dropped = 0 ∧ j = wholeNumber negative significand) ∨
        ((fraction = [] → exponent = [] → dropped ≠ 0) ∧ IsFloat j)) := by
  unfold numberTail at h
  split at h
  · obtain ⟨hj, ds, exponent, hds, hexponent, rfl, hends⟩ := fractionPart_eq_ok h
    exact ⟨'.' :: ds, exponent, .inr ⟨ds, hds, rfl⟩, hexponent, rfl, hends, .inr ⟨nofun, hj⟩⟩
  · obtain ⟨hj, exponent, hne, hexponent, htext, hends⟩ := exponentPart_letter (.inl rfl) h
    exact ⟨[], exponent, .inl rfl, hexponent, htext, hends [],
      .inr ⟨fun _ hnil => absurd hnil hne, hj⟩⟩
  · obtain ⟨hj, exponent, hne, hexponent, htext, hends⟩ := exponentPart_letter (.inr rfl) h
    exact ⟨[], exponent, .inl rfl, hexponent, htext, hends [],
      .inr ⟨fun _ hnil => absurd hnil hne, hj⟩⟩
  · rename_i hpoint hsmall hlarge
    have hends : EndsAfter [] [] text := by
      refine ⟨hstops, fun _ c hc => ?_, fun _ _ c hc => ?_⟩
      · obtain ⟨later, rfl⟩ := List.head?_eq_some_iff.mp hc
        exact ⟨fun heq => hsmall later (heq ▸ rfl), fun heq => hlarge later (heq ▸ rfl)⟩
      · obtain ⟨later, rfl⟩ := List.head?_eq_some_iff.mp hc
        exact fun heq => hpoint later (heq ▸ rfl)
    split at h
    · rename_i hdropped
      cases h
      exact ⟨[], [], .inl rfl, .inl rfl, rfl, hends, .inl ⟨rfl, rfl, hdropped, rfl⟩⟩
    · rename_i hdropped
      obtain ⟨hj, rfl⟩ := floatNumber_eq_ok h
      exact ⟨[], [], .inl rfl, .inl rfl, rfl, hends, .inr ⟨fun _ _ => hdropped, hj⟩⟩

theorem dropped_pos_of_pos {significand dropped : Nat} (h : 0 < dropped) (text : List Char) :
    0 < (wholeDigits significand dropped text).1.2 := by
  induction text generalizing significand dropped with
  | nil => exact h
  | cons c text ih =>
      rw [wholeDigits]
      split
      · exact h
      · split
        · exact absurd h (by simp_all)
        · exact ih (Nat.succ_pos dropped)

/-- The digits before a point are gathered as long as they fit; from then on they are counted. -/
theorem wholeDigits_fst {significand : Nat} (h : significand ≤ maxNat64) {ds : List Char}
    (hds : ∀ c ∈ ds, c.isDigit) (hrest : StopsDigits rest) :
    (Digits.valueFrom significand ds ≤ maxNat64 ∧
        (wholeDigits significand 0 (ds ++ rest)).1 = (Digits.valueFrom significand ds, 0)) ∨
      (maxNat64 < Digits.valueFrom significand ds ∧
        0 < (wholeDigits significand 0 (ds ++ rest)).1.2) := by
  induction ds generalizing significand with
  | nil =>
      refine .inl ⟨h, ?_⟩
      cases rest with
      | nil => rfl
      | cons c rest =>
          rw [List.nil_append, wholeDigits, if_pos (by rw [hrest c rfl]; rfl)]
          rfl
  | cons c ds ih =>
      have hc : ¬(!c.isDigit) = true := by simp [hds c List.mem_cons_self]
      rw [Digits.valueFrom_cons, List.cons_append, wholeDigits, if_neg hc]
      by_cases hfits : significand * 10 + Digits.digitValue c ≤ maxNat64
      · rw [if_pos (by simp [fitsDigit, hfits])]
        exact ih hfits fun d hd => hds d (List.mem_cons_of_mem _ hd)
      · rw [if_neg (by simp [fitsDigit, hfits])]
        exact .inr ⟨Nat.lt_of_lt_of_le (Nat.lt_of_not_le hfits) (Digits.le_valueFrom _ ds),
          dropped_pos_of_pos Nat.one_pos _⟩

theorem digitValue_le {c : Char} (h : c.isDigit) : Digits.digitValue c ≤ 9 := by
  simp only [Char.isDigit, Bool.and_eq_true, decide_eq_true_eq] at h
  have hhigh : c.toNat ≤ 57 := h.2
  unfold Digits.digitValue
  omega

theorem eq_zero_of_digitValue {c : Char} (h : c.isDigit) (hc : Digits.digitValue c = 0) :
    c = '0' := by
  simp only [Char.isDigit, Bool.and_eq_true, decide_eq_true_eq] at h
  have hlow : 48 ≤ c.toNat := h.1
  unfold Digits.digitValue at hc
  exact Char.toNat_inj.mp (show c.toNat = 48 by omega)

theorem eq_zero_of_value {whole : List Char} (h : IsWhole whole)
    (hvalue : Digits.value whole = 0) : whole = ['0'] := by
  obtain ⟨c, ds, rfl⟩ := List.exists_cons_of_ne_nil h.1.1
  have hle := Digits.le_valueFrom (Digits.digitValue c) ds
  rw [← Digits.value_cons, hvalue] at hle
  have hc := eq_zero_of_digitValue (h.1.2 c List.mem_cons_self) (Nat.le_zero.mp hle)
  exact h.2 (congrArg some hc)

theorem isWhole_decimal (n : Nat) : IsWhole (Digits.decimal n) := by
  refine ⟨⟨Digits.decimal_ne_nil n, fun _ => Digits.isDigit_of_mem_decimal⟩, fun hhead => ?_⟩
  rcases n.eq_zero_or_pos with rfl | hpos
  · rw [Digits.decimal]
    rfl
  · exact absurd hhead (Digits.head?_decimal_ne_zero hpos)

theorem digit_digitValue {c : Char} (h : c.isDigit) (k : Nat) :
    Digits.digit (k * 10 + Digits.digitValue c) = c := by
  have hle := digitValue_le h
  simp only [Char.isDigit, Bool.and_eq_true, decide_eq_true_eq] at h
  have hlow : 48 ≤ c.toNat := h.1
  have hmod : 48 + (k * 10 + Digits.digitValue c) % 10 = c.toNat := by
    unfold Digits.digitValue at hle ⊢
    omega
  rw [Digits.digit, hmod, Char.ofNat_toNat]

theorem decimal_value {ds : List Char} (h : IsWhole ds) :
    Digits.decimal (Digits.value ds) = ds := by
  induction ds using List.reverseRecOn with
  | nil => exact absurd rfl h.1.1
  | append_singleton ds c ih =>
      have hc : c.isDigit := h.1.2 c (List.mem_append_right _ List.mem_cons_self)
      have hle := digitValue_le hc
      rw [Digits.value_append_singleton, Digits.decimal, digit_digitValue hc]
      rcases eq_or_ne ds [] with rfl | hne
      · rw [if_pos (by simp only [Digits.value, List.foldl_nil]; omega), List.nil_append]
      · have hhead : ds.head? ≠ some '0' := by
          intro hzero
          have hwhole := h.2 (by rw [List.head?_append, hzero, Option.some_or])
          have hlength := congrArg List.length hwhole
          rw [List.length_append] at hlength
          exact hne (List.eq_nil_of_length_eq_zero (Nat.succ.inj hlength))
        have hds : IsWhole ds :=
          ⟨⟨hne, fun d hd => h.1.2 d (List.mem_append_left _ hd)⟩, fun hzero => absurd hzero hhead⟩
        have hpos : 0 < Digits.value ds := by
          refine Nat.pos_of_ne_zero fun hzero => hhead ?_
          rw [eq_zero_of_value hds hzero]
          rfl
        have hdiv : (Digits.value ds * 10 + Digits.digitValue c) / 10 = Digits.value ds := by omega
        rw [if_neg (by omega), hdiv, ih hds]

namespace Numeral

variable {n : Numeral}

theorem text_of_negative (h : n.negative = true) : n.text = '-' :: n.unsigned := if_pos h

theorem text_of_not_negative (h : n.negative = false) : n.text = n.unsigned := by
  rw [text, h, if_neg Bool.false_ne_true]

theorem value_of_negative (h : n.negative = true) : n.value = -(Digits.value n.whole : Int) :=
  if_pos h

theorem value_of_not_negative (h : n.negative = false) : n.value = Digits.value n.whole := by
  rw [value, h, if_neg Bool.false_ne_true]

theorem unsigned_of_whole (hfraction : n.fraction = []) (hexponent : n.exponent = []) :
    n.unsigned = n.whole := by
  rw [unsigned, hfraction, hexponent, List.append_nil, List.append_nil]

theorem isReadAs_wholeNumber (hfraction : n.fraction = []) (hexponent : n.exponent = [])
    (hfits : Digits.value n.whole ≤ maxNat64) :
    n.IsReadAs (wholeNumber n.negative (Digits.value n.whole)) := by
  have hunsigned := unsigned_of_whole hfraction hexponent
  -- a negative zero and what is below the lowest integer of 64 bits are binary64 numbers
  cases hnegative : n.negative with
  | false =>
      have hvalue := value_of_not_negative hnegative
      have htext : n.text ≠ ['-', '0'] := by
        rw [text_of_not_negative hnegative, hunsigned]
        intro hwhole
        have hminus := n.isWhole.1.2 '-' (by rw [hwhole]; exact List.mem_cons_self)
        exact absurd hminus (by decide)
      rw [wholeNumber, if_pos (by decide), ← hvalue]
      refine .integer ⟨hfraction, hexponent, htext⟩ ?_ ?_
      · exact hvalue ▸ Int.le_trans (by decide) (Int.natCast_nonneg _)
      · exact hvalue ▸ Int.ofNat_le.mpr hfits
  | true =>
      have hvalue := value_of_negative hnegative
      rw [wholeNumber, if_neg (by decide)]
      by_cases hzero : Digits.value n.whole = 0
      · rw [if_pos (.inl hzero)]
        refine .float (fun hinteger => absurd ?_ hinteger.2.2) _
        rw [text_of_negative hnegative, hunsigned, eq_zero_of_value n.isWhole hzero]
      · by_cases hlarge : 9223372036854775808 < Digits.value n.whole
        · rw [if_pos (.inr hlarge)]
          refine .float (fun _ => .inl ?_) _
          rw [hvalue, minInt64]
          omega
        · have htext : n.text ≠ ['-', '0'] := by
            rw [text_of_negative hnegative, hunsigned]
            intro hwhole
            rw [(List.cons.inj hwhole).2] at hzero
            exact hzero rfl
          rw [if_neg (not_or.mpr ⟨hzero, hlarge⟩), ← hvalue]
          refine .integer ⟨hfraction, hexponent, htext⟩ ?_ ?_
          · rw [hvalue, minInt64]
            omega
          · rw [hvalue, maxNat64]
            omega

theorem isReadAs_float (h : n.fraction = [] → n.exponent = [] → maxNat64 < Digits.value n.whole)
    (bits : UInt64) : n.IsReadAs (.float bits) := by
  refine .float (fun hinteger => ?_) bits
  have hlarge := h hinteger.1 hinteger.2.1
  unfold maxNat64 at hlarge ⊢
  cases hnegative : n.negative with
  | false =>
      rw [value_of_not_negative hnegative]
      exact .inr (by omega)
  | true =>
      rw [value_of_negative hnegative, minInt64]
      exact .inl (by omega)

end Numeral

/-- What has been gathered of the digits before a point: their value, or as much of them as fits. -/
def IsGathered (whole : List Char) (significand dropped : Nat) : Prop :=
  (Digits.value whole ≤ maxNat64 ∧ significand = Digits.value whole ∧ dropped = 0) ∨
    (maxNat64 < Digits.value whole ∧ 0 < dropped)

theorem exists_numeral_of_numberTail {whole later : List Char} {significand dropped : Nat}
    (hwhole : IsWhole whole) (hstops : StopsDigits later)
    (hgathered : IsGathered whole significand dropped)
    (h : numberTail negative significand dropped later = .ok (j, rest)) :
    ∃ n : Numeral, n.negative = negative ∧ whole ++ later = n.unsigned ++ rest ∧
      EndsAfter n.fraction n.exponent rest ∧ n.IsReadAs j := by
  obtain ⟨fraction, exponent, hfraction, hexponent, rfl, hends, hread⟩ := numberTail_eq_ok hstops h
  refine ⟨⟨negative, whole, fraction, exponent, hwhole, hfraction, hexponent⟩, rfl, ?_, hends, ?_⟩
  · simp only [Numeral.unsigned, List.append_assoc]
  · rcases hread with ⟨rfl, rfl, hdropped, rfl⟩ | ⟨hdropped, bits, rfl⟩
    · rcases hgathered with ⟨hfits, rfl, -⟩ | ⟨-, hpos⟩
      · exact Numeral.isReadAs_wholeNumber rfl rfl hfits
      · omega
    · refine Numeral.isReadAs_float (fun hf he => ?_) bits
      rcases hgathered with ⟨-, -, hnone⟩ | ⟨hlarge, -⟩
      · exact absurd hnone (hdropped hf he)
      · exact hlarge

theorem number_eq_ok (h : number negative text = .ok (j, rest)) :
    ∃ n : Numeral, n.negative = negative ∧ text = n.unsigned ++ rest ∧
      EndsAfter n.fraction n.exponent rest ∧ n.IsReadAs j := by
  unfold number at h
  split at h
  · cases h
  · split at h
    · cases h
    · rename_i hstops
      have hwhole : IsWhole ['0'] :=
        ⟨⟨List.cons_ne_nil _ _, List.forall_mem_singleton.mpr rfl⟩, fun _ => rfl⟩
      have hgathered : IsGathered ['0'] 0 0 := .inl ⟨Nat.zero_le maxNat64, rfl, rfl⟩
      refine exists_numeral_of_numberTail hwhole (fun c hc => ?_) hgathered h
      rw [Option.mem_def.mp hc] at hstops
      simpa using hstops
  · rename_i c digits hzero
    split at h
    · cases h
    · rename_i hc
      have hc : c.isDigit := by simpa using hc
      obtain ⟨ds, hds, hdigits⟩ := exists_digits hc digits
      have hwhole : IsWhole (c :: ds) := ⟨hds, fun hhead => absurd (Option.some.inj hhead) hzero⟩
      have hstops := stopsDigits_dropWhile digits
      have hsnd := wholeDigits_snd (Digits.digitValue c) 0 digits
      have hgathered : IsGathered (c :: ds) (wholeDigits (Digits.digitValue c) 0 digits).1.1
          (wholeDigits (Digits.digitValue c) 0 digits).1.2 := by
        have hfst := wholeDigits_fst (Nat.le_trans (digitValue_le hc) (by decide))
          (fun d hd => hds.2 d (List.mem_cons_of_mem _ hd)) hstops
        rw [← hdigits, ← Digits.value_cons] at hfst
        exact hfst.imp (fun ⟨hfits, hread⟩ => ⟨hfits, by rw [hread], by rw [hread]⟩) id
      dsimp only at h
      rw [hsnd] at h
      have hnumeral := exists_numeral_of_numberTail hwhole hstops hgathered h
      rwa [List.cons_append, ← hdigits] at hnumeral

end Reading

section Unique

variable {fraction exponent rest fraction' exponent' rest' : List Char}

theorem stopsDigits_exponent (he : IsExponent exponent) (h : EndsAfter fraction exponent rest) :
    StopsDigits (exponent ++ rest) := by
  obtain rfl | ⟨letter, _, _, hletter, -, -, rfl⟩ := he
  · exact h.stopsDigits
  · exact stopsDigits_cons (by rcases hletter with rfl | rfl <;> decide) _

theorem stopsDigits_fraction (hf : IsFraction fraction) (he : IsExponent exponent)
    (h : EndsAfter fraction exponent rest) : StopsDigits (fraction ++ (exponent ++ rest)) := by
  rcases hf with hnil | ⟨_, -, rfl⟩
  · rw [hnil, List.nil_append]
    exact stopsDigits_exponent he h
  · exact stopsDigits_cons (by decide) _

theorem sign_unique {sign sign' ds ds' : List Char} (hs : sign = [] ∨ sign = ['+'] ∨ sign = ['-'])
    (hs' : sign' = [] ∨ sign' = ['+'] ∨ sign' = ['-']) (hds : IsDigits ds) (hds' : IsDigits ds')
    (h : sign ++ (ds ++ rest) = sign' ++ (ds' ++ rest')) :
    sign = sign' ∧ ds ++ rest = ds' ++ rest' := by
  have hdigit : ∀ {ds rest later : List Char} {c : Char}, IsDigits ds → c :: later = ds ++ rest →
      c.isDigit := by
    intro ds rest later c hds h
    obtain ⟨d, ds, rfl⟩ := List.exists_cons_of_ne_nil hds.1
    exact (List.cons.inj h).1 ▸ hds.2 d List.mem_cons_self
  rcases hs with rfl | rfl | rfl <;> rcases hs' with rfl | rfl | rfl
  · exact ⟨rfl, h⟩
  · exact absurd (hdigit hds h.symm) (by decide)
  · exact absurd (hdigit hds h.symm) (by decide)
  · exact absurd (hdigit hds' h) (by decide)
  · exact ⟨rfl, (List.cons.inj h).2⟩
  · exact absurd (List.cons.inj h).1 (by decide)
  · exact absurd (hdigit hds' h) (by decide)
  · exact absurd (List.cons.inj h).1 (by decide)
  · exact ⟨rfl, (List.cons.inj h).2⟩

theorem exponent_unique (he : IsExponent exponent) (he' : IsExponent exponent')
    (hends : EndsAfter fraction exponent rest) (hends' : EndsAfter fraction' exponent' rest')
    (h : exponent ++ rest = exponent' ++ rest') : exponent = exponent' ∧ rest = rest' := by
  -- a letter that begins an exponent does not stand after a numeral without one
  have hnone : ∀ {fraction exponent rest rest' : List Char}, IsExponent exponent →
      EndsAfter fraction [] rest' → exponent ++ rest = rest' → exponent = [] := by
    rintro _ exponent rest _ (rfl | ⟨letter, _, _, hletter, -, -, rfl⟩) hends rfl
    · rfl
    · exact absurd hletter (not_or.mpr (hends.ne_letter rfl letter rfl))
  rcases he with rfl | ⟨letter, sign, ds, hletter, hsign, hds, rfl⟩
  · obtain rfl := hnone he' hends h.symm
    exact ⟨rfl, h⟩
  · rcases he' with rfl | ⟨letter', sign', ds', hletter', hsign', hds', rfl⟩
    · exact absurd (hnone (.inr ⟨letter, sign, ds, hletter, hsign, hds, rfl⟩) hends' h)
        (List.cons_ne_nil _ _)
    · rw [List.cons_append, List.cons_append, List.append_assoc, List.append_assoc] at h
      obtain ⟨rfl, hsigned⟩ := List.cons.inj h
      obtain ⟨rfl, hdigits⟩ := sign_unique hsign hsign' hds hds' hsigned
      obtain ⟨rfl, rfl⟩ := digits_unique hds.2 hds'.2 hends.stopsDigits hends'.stopsDigits hdigits
      exact ⟨rfl, rfl⟩

theorem fraction_unique (hf : IsFraction fraction) (hf' : IsFraction fraction')
    (he : IsExponent exponent) (he' : IsExponent exponent')
    (hends : EndsAfter fraction exponent rest) (hends' : EndsAfter fraction' exponent' rest')
    (h : fraction ++ (exponent ++ rest) = fraction' ++ (exponent' ++ rest')) :
    fraction = fraction' ∧ exponent ++ rest = exponent' ++ rest' := by
  have hnone : ∀ {fraction exponent rest later : List Char}, IsFraction fraction →
      IsExponent exponent → EndsAfter [] exponent rest →
        fraction ++ later = exponent ++ rest → fraction = [] := by
    rintro _ exponent rest later (rfl | ⟨ds, -, rfl⟩) he hends h
    · rfl
    · rcases he with rfl | ⟨letter, _, _, hletter, -, -, rfl⟩
      · exact absurd rfl (hends.ne_point rfl rfl '.' (by rw [← List.nil_append rest, ← h]; rfl))
      · rw [← (List.cons.inj h).1] at hletter
        exact absurd hletter (by decide)
  rcases hf with rfl | ⟨ds, hds, rfl⟩
  · obtain rfl := hnone hf' he hends h.symm
    exact ⟨rfl, h⟩
  · rcases hf' with rfl | ⟨ds', hds', rfl⟩
    · exact absurd (hnone (.inr ⟨ds, hds, rfl⟩) he' hends' h) (List.cons_ne_nil _ _)
    · obtain ⟨rfl, hlater⟩ := digits_unique hds.2 hds'.2 (stopsDigits_exponent he hends)
        (stopsDigits_exponent he' hends') (List.cons.inj h).2
      exact ⟨rfl, hlater⟩

/-- A numeral is told from what follows it, if this could not be more of it. -/
theorem Numeral.unique {n m : Numeral} (hends : EndsAfter n.fraction n.exponent rest)
    (hends' : EndsAfter m.fraction m.exponent rest') (h : n.text ++ rest = m.text ++ rest') :
    n = m ∧ rest = rest' := by
  -- from the front, part by part: each ends where what follows cannot be more of it
  have hminus : ∀ {n : Numeral} {rest later : List Char}, n.unsigned ++ rest ≠ '-' :: later := by
    intro n rest later h
    obtain ⟨c, ds, hwhole⟩ := List.exists_cons_of_ne_nil n.isWhole.1.1
    have hc := n.isWhole.1.2 c (hwhole ▸ List.mem_cons_self)
    rw [unsigned, hwhole] at h
    rw [(List.cons.inj h).1] at hc
    exact absurd hc (by decide)
  have hsign : n.negative = m.negative ∧ n.unsigned ++ rest = m.unsigned ++ rest' := by
    cases hn : n.negative <;> cases hm : m.negative
    · rw [text_of_not_negative hn, text_of_not_negative hm] at h
      exact ⟨rfl, h⟩
    · rw [text_of_not_negative hn, text_of_negative hm] at h
      exact absurd h hminus
    · rw [text_of_negative hn, text_of_not_negative hm] at h
      exact absurd h.symm hminus
    · rw [text_of_negative hn, text_of_negative hm] at h
      exact ⟨rfl, (List.cons.inj h).2⟩
  obtain ⟨negative, whole, fraction, exponent, hw, hf, he⟩ := n
  obtain ⟨negative', whole', fraction', exponent', hw', hf', he'⟩ := m
  obtain ⟨rfl, hunsigned⟩ := hsign
  simp only [unsigned, List.append_assoc] at hunsigned
  obtain ⟨rfl, hlater⟩ := digits_unique hw.1.2 hw'.1.2 (stopsDigits_fraction hf he hends)
    (stopsDigits_fraction hf' he' hends') hunsigned
  obtain ⟨rfl, hscale⟩ := fraction_unique hf hf' he he' hends hends' hlater
  obtain ⟨rfl, rfl⟩ := exponent_unique he he' hends hends' hscale
  exact ⟨rfl, rfl⟩

end Unique

end Daybook.Json
