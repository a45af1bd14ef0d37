import Daybook.Json.Parser

namespace Daybook.Json

/-- The value of hexadecimal digits that come after those of another. -/
def hexFrom? (value : Option Nat) (digits : List Char) : Option Nat :=
  digits.foldl (fun value c => do return (← value) * 16 + (← hexValue? c)) value

def codeUnit? (digits : List Char) : Option Nat := hexFrom? (some 0) digits

/-- A text begins with the spelling of a character, after which `rest` follows. -/
inductive SpellsChar : (c : Char) → (text rest : List Char) → Prop where
  | plain {c : Char} {rest : List Char} (hquote : c ≠ '"') (hslash : c ≠ '\\')
      (hcontrol : 0x20 ≤ c.toNat) : SpellsChar c (c :: rest) rest
  | escape {letter c : Char} {rest : List Char} (h : escaped? letter = some c) :
      SpellsChar c ('\\' :: letter :: rest) rest
  | unit {digits rest : List Char} {n : Nat} (hlength : digits.length = 4)
      (h : codeUnit? digits = some n) (hlead : isLeading n = false)
      (htrail : isTrailing n = false) :
      SpellsChar (Char.ofNat n) ('\\' :: 'u' :: (digits ++ rest)) rest
  | pair {first second rest : List Char} {lead trail : Nat} (hfirst : first.length = 4)
      (hsecond : second.length = 4) (hlead : codeUnit? first = some lead)
      (htrail : codeUnit? second = some trail) (hleading : isLeading lead = true)
      (htrailing : isTrailing trail = true) :
      SpellsChar (pairChar lead trail)
        ('\\' :: 'u' :: (first ++ '\\' :: 'u' :: (second ++ rest))) rest

/-- A text spells characters up to a closing quote, after which `rest` follows. -/
inductive SpellsChars : (chars text rest : List Char) → Prop where
  | close {rest : List Char} : SpellsChars [] ('"' :: rest) rest
  | cons {c : Char} {chars text later rest : List Char} (head : SpellsChar c text later)
      (more : SpellsChars chars later rest) : SpellsChars (c :: chars) text rest

section Units

variable {lead : Option Nat} {value n bytes : Nat} {state : Inside} {c? : Option Char}
variable {digits done text rest : List Char} {s : String}

theorem utf8Size_of_hexValue? {c : Char} (h : hexValue? c = some n) : c.utf8Size = 1 := by
  have hlow : c.toNat ≤ 127 := by
    unfold hexValue? at h
    split at h
    · rename_i hc
      simp only [Char.isDigit, Bool.and_eq_true, decide_eq_true_eq] at hc
      have : c.toNat ≤ 57 := hc.2
      omega
    · split at h
      · rename_i hc
        have : c.toNat ≤ 102 := hc.2
        omega
      · split at h
        · rename_i hc
          have : c.toNat ≤ 70 := hc.2
          omega
        · cases h
  exact if_pos hlow

theorem hexFrom?_none (digits : List Char) : hexFrom? none digits = none := by
  induction digits with
  | nil => rfl
  | cons c digits ih => exact ih

theorem hexFrom?_cons {c : Char} {digit : Nat} (h : hexValue? c = some digit) :
    hexFrom? (some value) (c :: digits) = hexFrom? (some (value * 16 + digit)) digits := by
  rw [hexFrom?, List.foldl_cons, h]
  rfl

theorem exists_of_hexFrom?_cons {c : Char} (h : hexFrom? (some value) (c :: digits) = some n) :
    ∃ digit, hexValue? c = some digit ∧ hexFrom? (some (value * 16 + digit)) digits = some n := by
  cases hc : hexValue? c with
  | none =>
      rw [hexFrom?, List.foldl_cons, hc] at h
      exact absurd ((hexFrom?_none digits).symm.trans h) nofun
  | some digit => exact ⟨digit, rfl, hexFrom?_cons hc ▸ h⟩

theorem stringFrom_unit_none : stringFrom (.unit lead none bytes) done text ≠ .ok (s, rest) := by
  induction text generalizing bytes with
  | nil => nofun
  | cons c text ih =>
      intro h
      rw [stringFrom] at h
      dsimp only [Option.bind_eq_bind, Option.bind_none] at h
      split at h
      · exact ih h
      · cases h

theorem stringFrom_unit_eq_ok (hbytes : bytes < 4)
    (h : stringFrom (.unit lead (some value) bytes) done text = .ok (s, rest)) :
    ∃ digits later n state c?, text = digits ++ later ∧ digits.length + bytes = 4 ∧
      hexFrom? (some value) digits = some n ∧ endUnit lead (some n) = .ok (state, c?) ∧
        stringFrom state (c?.toList ++ done) later = .ok (s, rest) := by
  induction text generalizing value bytes with
  | nil => cases h
  | cons c text ih =>
      rw [stringFrom] at h
      dsimp only [Option.bind_eq_bind, Option.bind_some, Option.pure_def] at h
      cases hc : hexValue? c with
      | none =>
          rw [hc, Option.bind_none] at h
          split at h
          · exact absurd h stringFrom_unit_none
          · cases h
      | some digit =>
          rw [hc, Option.bind_some, utf8Size_of_hexValue? hc] at h
          split at h
          · rename_i hmore
            obtain ⟨digits, later, n, state, c?, rfl, hlength, hdigits, hread⟩ := ih hmore h
            refine ⟨c :: digits, later, n, state, c?, rfl, ?_, hexFrom?_cons hc ▸ hdigits, hread⟩
            rw [List.length_cons]
            omega
          · have hlast : bytes = 3 := by omega
            refine ⟨[c], text, value * 16 + digit, ?_⟩
            split at h
            · rename_i state hend
              exact ⟨state, none, rfl, by rw [hlast]; rfl, hexFrom?_cons hc, hend, h⟩
            · rename_i state e hend
              exact ⟨state, some e, rfl, by rw [hlast]; rfl, hexFrom?_cons hc, hend, h⟩
            · cases h

theorem stringFrom_of_unit (hlength : digits.length + bytes = 4) (hbytes : bytes < 4)
    (h : hexFrom? (some value) digits = some n) (hend : endUnit lead (some n) = .ok (state, c?))
    (done rest : List Char) :
    stringFrom (.unit lead (some value) bytes) done (digits ++ rest) =
      stringFrom state (c?.toList ++ done) rest := by
  induction digits generalizing value bytes with
  | nil => exact absurd hlength (by simp; omega)
  | cons c digits ih =>
      obtain ⟨digit, hc, hdigits⟩ := exists_of_hexFrom?_cons h
      rw [List.length_cons] at hlength
      rw [List.cons_append, stringFrom, hc, utf8Size_of_hexValue? hc]
      split
      · rename_i hmore
        exact ih (by omega) hmore hdigits
      · obtain rfl : digits = [] := List.eq_nil_of_length_eq_zero (by omega)
        cases hdigits
        dsimp only [Option.bind_eq_bind, Option.bind_some, Option.pure_def]
        rw [hend]
        cases c? <;> rfl

theorem stringFrom_pair_eq_ok {lead : Nat}
    (h : stringFrom (.pair lead) done text = .ok (s, rest)) :
    ∃ later, text = '\\' :: 'u' :: later ∧
      stringFrom (.unit (some lead) (some 0) 0) done later = .ok (s, rest) := by
  cases text with
  | nil => cases h
  | cons c text =>
      rw [stringFrom] at h
      split at h
      · rename_i hc
        cases text with
        | nil => cases h
        | cons d text =>
            rw [stringFrom] at h
            split at h
            · rename_i hd
              exact ⟨text, by rw [hc, hd], h⟩
            · cases h
      · cases h

theorem endUnit_none_eq_ok_iff : endUnit none (some n) = .ok (state, c?) ↔
    (isTrailing n = false ∧ isLeading n = false ∧ state = .plain ∧ c? = some (Char.ofNat n)) ∨
      (isTrailing n = false ∧ isLeading n = true ∧ state = .pair n ∧ c? = none) := by
  cases htrail : isTrailing n <;> cases hlead : isLeading n <;>
    simp [endUnit, htrail, hlead, eq_comm]

theorem endUnit_some_eq_ok_iff {lead : Nat} : endUnit (some lead) (some n) = .ok (state, c?) ↔
    isTrailing n = true ∧ state = .plain ∧ c? = some (pairChar lead n) := by
  cases htrail : isTrailing n <;> simp [endUnit, htrail, eq_comm]

theorem isTrailing_of_isLeading (h : isLeading n = true) : isTrailing n = false := by
  simp only [isLeading, isTrailing, Bool.and_eq_true, decide_eq_true_eq, Bool.and_eq_false_iff,
    decide_eq_false_iff_not] at h ⊢
  omega

end Units

section Reading

variable {c : Char} {chars done text later rest : List Char} {s : String}

theorem stringFrom_escape_eq_ok (h : stringFrom .escape done text = .ok (s, rest)) :
    ∃ c later, SpellsChar c ('\\' :: text) later ∧
      stringFrom .plain (c :: done) later = .ok (s, rest) := by
  cases text with
  | nil => cases h
  | cons letter text =>
      rw [stringFrom] at h
      split at h
      · rename_i hletter
        subst hletter
        obtain ⟨first, later, lead, state, c?, rfl, hfirst, hlead, hend, h⟩ :=
          stringFrom_unit_eq_ok (by decide) h
        rcases endUnit_none_eq_ok_iff.mp hend with
          ⟨htrail, hleading, rfl, rfl⟩ | ⟨-, hleading, rfl, rfl⟩
        · exact ⟨_, later, .unit hfirst hlead hleading htrail, h⟩
        · obtain ⟨later, rfl, h⟩ := stringFrom_pair_eq_ok h
          obtain ⟨second, later, trail, state, c?, rfl, hsecond, htrail, hend, h⟩ :=
            stringFrom_unit_eq_ok (by decide) h
          obtain ⟨htrailing, rfl, rfl⟩ := endUnit_some_eq_ok_iff.mp hend
          exact ⟨_, later, .pair hfirst hsecond hlead htrail hleading htrailing, h⟩
      · split at h
        · rename_i c hc
          exact ⟨c, text, .escape hc, h⟩
        · cases h

theorem stringFrom_plain_cases (h : stringFrom .plain done text = .ok (s, rest)) :
    (text = '"' :: rest ∧ s = String.ofList done.reverse) ∨
      ∃ c later, SpellsChar c text later ∧ stringFrom .plain (c :: done) later = .ok (s, rest) := by
  cases text with
  | nil => cases h
  | cons c text =>
      rw [stringFrom] at h
      split at h
      · rename_i hc
        cases h
        exact .inl ⟨by rw [hc], rfl⟩
      · rename_i hquote
        split at h
        · rename_i hslash
          exact .inr (hslash ▸ stringFrom_escape_eq_ok h)
        · rename_i hslash
          split at h
          · cases h
          · rename_i hcontrol
            exact .inr ⟨c, text, .plain hquote hslash (Nat.le_of_not_lt hcontrol), h⟩

theorem SpellsChar.length_lt (h : SpellsChar c text later) : later.length < text.length := by
  cases h <;> simp <;> omega

theorem spellsChars_of_stringFrom (h : stringFrom .plain done text = .ok (s, rest)) :
    ∃ chars, s = String.ofList (done.reverse ++ chars) ∧ SpellsChars chars text rest := by
  -- by the length of the text, since the spelling of a character may be long
  induction hlength : text.length using Nat.strongRecOn generalizing done text with
  | ind length ih =>
      rcases stringFrom_plain_cases h with ⟨rfl, rfl⟩ | ⟨c, later, hc, hlater⟩
      · exact ⟨[], by rw [List.append_nil], .close⟩
      · obtain ⟨chars, rfl, hmore⟩ := ih later.length (hlength ▸ hc.length_lt) hlater rfl
        exact ⟨c :: chars, by rw [List.reverse_cons, List.append_assoc, List.singleton_append],
          .cons hc hmore⟩

theorem escaped?_ne {letter : Char} (h : escaped? letter = some c) : letter ≠ 'u' := by
  rintro rfl
  cases h

theorem stringFrom_of_spellsChar (h : SpellsChar c text later) (done : List Char) :
    stringFrom .plain done text = stringFrom .plain (c :: done) later := by
  have hopen : ∀ text, stringFrom .plain done ('\\' :: text) = stringFrom .escape done text :=
    fun _ => rfl
  cases h with
  | plain hquote hslash hcontrol =>
      rw [stringFrom, if_neg hquote, if_neg hslash, if_neg (Nat.not_lt.mpr hcontrol)]
  | escape hc => rw [hopen, stringFrom, if_neg (escaped?_ne hc), hc]
  | unit hlength hn hlead htrail =>
      exact stringFrom_of_unit hlength (by decide) hn
        (endUnit_none_eq_ok_iff.mpr (.inl ⟨htrail, hlead, rfl, rfl⟩)) done later
  | @pair first second _ lead trail hfirst hsecond hlead htrail hleading htrailing =>
      have hpair : ∀ text, stringFrom (.unit none (some 0) 0) done (first ++ text) =
          stringFrom (.pair lead) done text :=
        stringFrom_of_unit hfirst (by decide) hlead (endUnit_none_eq_ok_iff.mpr
          (.inr ⟨isTrailing_of_isLeading hleading, hleading, rfl, rfl⟩)) done
      have hend : stringFrom (.unit (some lead) (some 0) 0) done (second ++ later) =
          stringFrom .plain (pairChar lead trail :: done) later :=
        stringFrom_of_unit hsecond (by decide) htrail
          (endUnit_some_eq_ok_iff.mpr ⟨htrailing, rfl, rfl⟩) done later
      exact (hpair _).trans hend

theorem stringFrom_of_spellsChars (h : SpellsChars chars text rest) (done : List Char) :
    stringFrom .plain done text = .ok (String.ofList (done.reverse ++ chars), rest) := by
  induction h generalizing done with
  | close => rw [List.append_nil]; rfl
  | cons head more ih =>
      rw [stringFrom_of_spellsChar head, ih, List.reverse_cons, List.append_assoc,
        List.singleton_append]

/-- A string is read exactly where it is spelled. -/
theorem string_eq_ok_iff :
    string text = .ok (String.ofList chars, rest) ↔ SpellsChars chars text rest := by
  constructor
  · intro h
    obtain ⟨read, hread, hspells⟩ := spellsChars_of_stringFrom h
    obtain rfl : chars = read := String.ofList_injective hread
    exact hspells
  · exact fun h => stringFrom_of_spellsChars h []

theorem SpellsChars.unique {chars' rest' : List Char} (h : SpellsChars chars text rest)
    (h' : SpellsChars chars' text rest') : chars = chars' ∧ rest = rest' := by
  have heq := (string_eq_ok_iff.mpr h).symm.trans (string_eq_ok_iff.mpr h')
  obtain ⟨hchars, hrest⟩ := Prod.mk.inj (Except.ok.inj heq)
  exact ⟨String.ofList_injective hchars, hrest⟩

end Reading

end Daybook.Json
