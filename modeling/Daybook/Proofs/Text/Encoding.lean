import Daybook.Text.Utf8
import Mathlib.Algebra.Group.Nat.Defs

namespace Daybook.Utf8

theorem lead_two {n : Nat} (hlow : 0x80 ≤ n) (hhigh : n < 0x800) :
    lead (0xC0 + n / 0x40) = .pending ⟨n / 0x40, 0, 0x80, 0xBF⟩ := by
  unfold lead
  rw [if_neg (by omega), if_neg (by omega), if_pos (by omega), Nat.add_sub_cancel_left]

theorem lead_three {n : Nat} (hlow : 0x800 ≤ n) (hhigh : n < 0x10000)
    (hvalid : n < 0xD800 ∨ 0xDFFF < n) :
    ∃ low high, lead (0xE0 + n / 0x1000) = .pending ⟨n / 0x1000, 1, low, high⟩ ∧
      low ≤ 0x80 + n / 0x40 % 0x40 ∧ 0x80 + n / 0x40 % 0x40 ≤ high := by
  have hlead : lead (0xE0 + n / 0x1000) = .pending ⟨n / 0x1000, 1,
      if n / 0x1000 = 0 then 0xA0 else 0x80, if n / 0x1000 = 0xD then 0x9F else 0xBF⟩ := by
    have hk : n / 0x1000 < 0x10 := by omega
    generalize n / 0x1000 = k at hk
    have : ∀ k < 0x10, lead (0xE0 + k) = .pending ⟨k, 1,
        if k = 0 then 0xA0 else 0x80, if k = 0xD then 0x9F else 0xBF⟩ := by decide
    exact this k hk
  refine ⟨_, _, hlead, ?_, ?_⟩ <;> split <;> omega

theorem lead_four {n : Nat} (hlow : 0x10000 ≤ n) (hhigh : n < 0x110000) :
    ∃ low high, lead (0xF0 + n / 0x40000) = .pending ⟨n / 0x40000, 2, low, high⟩ ∧
      low ≤ 0x80 + n / 0x1000 % 0x40 ∧ 0x80 + n / 0x1000 % 0x40 ≤ high := by
  have hlead : lead (0xF0 + n / 0x40000) = .pending ⟨n / 0x40000, 2,
      if n / 0x40000 = 0 then 0x90 else 0x80, if n / 0x40000 = 4 then 0x8F else 0xBF⟩ := by
    have hk : n / 0x40000 < 5 := by omega
    generalize n / 0x40000 = k at hk
    have : ∀ k < 5, lead (0xF0 + k) = .pending ⟨k, 2,
        if k = 0 then 0x90 else 0x80, if k = 4 then 0x8F else 0xBF⟩ := by decide
    exact this k hk
  refine ⟨_, _, hlead, ?_, ?_⟩ <;> split <;> omega

theorem toNat_byte {n : Nat} (h : n < 256) : (UInt8.ofNat n).toNat = n :=
  UInt8.toNat_ofNat_of_lt' h

variable (pieces : List (Option Char))

theorem push_start {n : Nat} (h : n < 256) :
    Scanner.push ⟨pieces, none⟩ (UInt8.ofNat n) = Scanner.start pieces n := by
  rw [Scanner.push, toNat_byte h]

theorem push_last {value low high k : Nat} (hk : k < 0x40) (hlow : low ≤ 0x80 + k)
    (hhigh : 0x80 + k ≤ high) :
    Scanner.push ⟨pieces, some ⟨value, 0, low, high⟩⟩ (UInt8.ofNat (0x80 + k)) =
      ⟨some (Char.ofNat (value * 0x40 + k)) :: pieces, none⟩ := by
  have hbyte : (UInt8.ofNat (0x80 + k)).toNat = 0x80 + k := toNat_byte (by omega)
  simp only [Scanner.push, hbyte, if_pos (And.intro hlow hhigh), Nat.add_sub_cancel_left]

theorem push_inner {value due low high k : Nat} (hk : k < 0x40) (hlow : low ≤ 0x80 + k)
    (hhigh : 0x80 + k ≤ high) :
    Scanner.push ⟨pieces, some ⟨value, due + 1, low, high⟩⟩ (UInt8.ofNat (0x80 + k)) =
      ⟨pieces, some ⟨value * 0x40 + k, due, 0x80, 0xBF⟩⟩ := by
  have hbyte : (UInt8.ofNat (0x80 + k)).toNat = 0x80 + k := toNat_byte (by omega)
  simp only [Scanner.push, hbyte, if_pos (And.intro hlow hhigh), Nat.add_sub_cancel_left]

theorem foldl_push_encodeChar (c : Char) :
    (encodeChar c).foldl Scanner.push ⟨pieces, none⟩ = ⟨some c :: pieces, none⟩ := by
  have hvalid : c.toNat < 0xD800 ∨ 0xDFFF < c.toNat ∧ c.toNat < 0x110000 := c.valid
  have hc : ∀ n, n = c.toNat → Char.ofNat n = c := fun n hn => hn ▸ Char.ofNat_toNat c
  unfold encodeChar
  dsimp only
  split
  · rw [List.foldl_cons, push_start pieces (by omega), Scanner.start, lead, if_pos (by omega)]
    simp only [hc _ rfl, List.foldl_nil]
  · split
    · rw [List.foldl_cons, push_start pieces (by omega), Scanner.start,
        lead_two (by omega) (by omega)]
      simp only [List.foldl_cons, List.foldl_nil]
      rw [push_last pieces (by omega) (by omega) (by omega), hc _ (by omega)]
    · split
      · obtain ⟨low, high, hlead, hlow, hhigh⟩ :=
          lead_three (n := c.toNat) (by omega) (by omega) (by omega)
        rw [List.foldl_cons, push_start pieces (by omega), Scanner.start, hlead]
        simp only [List.foldl_cons, List.foldl_nil]
        rw [push_inner pieces (by omega) hlow hhigh,
          push_last pieces (by omega) (by omega) (by omega), hc _ (by omega)]
      · obtain ⟨low, high, hlead, hlow, hhigh⟩ :=
          lead_four (n := c.toNat) (by omega) (by omega)
        rw [List.foldl_cons, push_start pieces (by omega), Scanner.start, hlead]
        simp only [List.foldl_cons, List.foldl_nil]
        rw [push_inner pieces (by omega) hlow hhigh,
          push_inner pieces (by omega) (by omega) (by omega),
          push_last pieces (by omega) (by omega) (by omega), hc _ (by omega)]

theorem foldl_push_encode (text : List Char) :
    (encode text).foldl Scanner.push ⟨pieces, none⟩ =
      ⟨(text.map some).reverse ++ pieces, none⟩ := by
  induction text generalizing pieces with
  | nil => rfl
  | cons c text ih =>
      rw [encode, List.flatMap_cons, List.foldl_append, foldl_push_encodeChar]
      rw [← encode, ih]
      simp

theorem start_eq (pieces : List (Option Char)) (b : Nat) :
    Scanner.start pieces b =
      ⟨(Scanner.start [] b).pieces ++ pieces, (Scanner.start [] b).pending⟩ := by
  unfold Scanner.start
  cases lead b <;> rfl

theorem push_eq (pieces : List (Option Char)) (pending : Option Pending) (byte : UInt8) :
    Scanner.push ⟨pieces, pending⟩ byte =
      ⟨(Scanner.push ⟨[], pending⟩ byte).pieces ++ pieces,
        (Scanner.push ⟨[], pending⟩ byte).pending⟩ := by
  cases pending with
  | none => exact start_eq pieces _
  | some p =>
      simp only [Scanner.push]
      split
      · cases p.due <;> rfl
      · rw [start_eq, start_eq [none]]
        simp

theorem finish_foldl_push (pieces : List (Option Char)) (pending : Option Pending)
    (bytes : List UInt8) :
    (bytes.foldl Scanner.push ⟨pieces, pending⟩).finish =
      pieces.reverse ++ (bytes.foldl Scanner.push ⟨[], pending⟩).finish := by
  induction bytes generalizing pieces pending with
  | nil => cases pending <;> simp [Scanner.finish]
  | cons b bytes ih =>
      rw [List.foldl_cons, List.foldl_cons, push_eq, ih, ih (Scanner.push ⟨[], pending⟩ b).pieces]
      simp

theorem pieces_encode_append (text : List Char) (rest : List UInt8) :
    Utf8.pieces (encode text ++ rest) = text.map some ++ Utf8.pieces rest := by
  rw [Utf8.pieces, List.foldl_append, foldl_push_encode, finish_foldl_push, List.append_nil,
    List.reverse_reverse, ← Utf8.pieces]

theorem decode?_encode (text : List Char) : decode? (encode text) = some text := by
  have hpieces := pieces_encode_append text []
  have hnil : Utf8.pieces [] = [] := rfl
  rw [List.append_nil, hnil, List.append_nil] at hpieces
  have hall : (text.map some).all Option.isSome = true := by simp
  rw [decode?, hpieces]
  simp only [hall, if_true, List.filterMap_map, Function.comp_def, id_eq, List.filterMap_some]

theorem decodeLossy_encode_append (text : List Char) (rest : List UInt8) :
    decodeLossy (encode text ++ rest) = text ++ decodeLossy rest := by
  rw [decodeLossy, pieces_encode_append, List.map_append, List.map_map, ← decodeLossy]
  congr 1
  exact List.map_id text

theorem decodeLossy_encode (text : List Char) : decodeLossy (encode text) = text := by
  rw [← List.append_nil (encode text), decodeLossy_encode_append]
  exact List.append_nil text

/-- The first byte of a character. -/
def firstByte (n : Nat) : Nat :=
  if n < 0x80 then n
  else if n < 0x800 then 0xC0 + n / 0x40
  else if n < 0x10000 then 0xE0 + n / 0x1000
  else 0xF0 + n / 0x40000

/-- The number of bytes that follow the first one of a character. -/
def followers (n : Nat) : Nat :=
  if n < 0x80 then 0 else if n < 0x800 then 1 else if n < 0x10000 then 2 else 3

/-- The last bytes of a character, with six bits each. -/
def lastBytes : (count n : Nat) → List UInt8
  | 0, _ => []
  | count + 1, n => UInt8.ofNat (0x80 + n / 0x40 ^ count % 0x40) :: lastBytes count n

theorem encodeChar_eq (c : Char) :
    encodeChar c = UInt8.ofNat (firstByte c.toNat) :: lastBytes (followers c.toNat) c.toNat := by
  unfold encodeChar firstByte followers
  dsimp only
  split
  · rfl
  split
  · simp [lastBytes]
  split <;> simp [lastBytes]

theorem firstByte_lt {n : Nat} (h : n < 0x110000) : firstByte n < 256 := by
  unfold firstByte
  split
  · omega
  split
  · omega
  split <;> omega

theorem firstByte_mono {m n : Nat} (h : m ≤ n) (hn : n < 0x110000) : firstByte m ≤ firstByte n := by
  unfold firstByte
  repeat' split
  all_goals omega

theorem mod_lt_of_firstByte_eq {m n : Nat} (h : m < n) (hn : n < 0x110000)
    (heq : firstByte m = firstByte n) :
    followers m = followers n ∧ m % 0x40 ^ followers n < n % 0x40 ^ followers n := by
  unfold firstByte at heq
  unfold followers
  repeat' split at heq
  all_goals first | omega | simp [*]; omega

theorem byte_cons_lt {i j : Nat} {s t : List UInt8} (hj : j < 256)
    (h : i < j ∨ i = j ∧ s < t) : UInt8.ofNat i :: s < UInt8.ofNat j :: t := by
  rcases h with hlt | ⟨rfl, hrest⟩
  · refine List.cons_lt_cons_iff.mpr (.inl (UInt8.lt_iff_toNat_lt.mpr ?_))
    rwa [toNat_byte (by omega), toNat_byte hj]
  · exact List.cons_lt_cons_iff.mpr (.inr ⟨rfl, hrest⟩)

theorem lastBytes_append_lt {count m n : Nat} (h : m % 0x40 ^ count < n % 0x40 ^ count)
    (s t : List UInt8) : lastBytes count m ++ s < lastBytes count n ++ t := by
  induction count with
  | zero => simp [Nat.mod_one] at h
  | succ count ih =>
      rw [Nat.pow_succ, Nat.mod_mul, Nat.mod_mul] at h
      have hn : n % 0x40 ^ count < 0x40 ^ count := Nat.mod_lt _ (Nat.pow_pos (by decide))
      refine byte_cons_lt (by omega) ?_
      rcases Nat.lt_trichotomy (m / 0x40 ^ count % 0x40) (n / 0x40 ^ count % 0x40) with
        hlt | heq | hgt
      · exact .inl (by omega)
      · rw [heq] at h
        exact .inr ⟨by rw [heq], ih (by omega)⟩
      · have := Nat.mul_le_mul_left (0x40 ^ count) (show n / 0x40 ^ count % 0x40 + 1 ≤ _ from hgt)
        rw [Nat.mul_succ] at this
        omega

/-- The bytes of characters are in the order of the characters, whatever follows them. -/
theorem encodeChar_append_lt {c d : Char} (h : c < d) (s t : List UInt8) :
    encodeChar c ++ s < encodeChar d ++ t := by
  have hlt : c.toNat < d.toNat := h
  have hmost : d.toNat < 0x110000 := by
    have hvalid := d.valid
    unfold UInt32.isValidChar Nat.isValidChar at hvalid
    have hval : d.toNat = d.val.toNat := rfl
    omega
  rw [encodeChar_eq, encodeChar_eq, List.cons_append, List.cons_append]
  refine byte_cons_lt (firstByte_lt hmost) ?_
  rcases Nat.lt_or_eq_of_le (firstByte_mono (Nat.le_of_lt hlt) hmost) with hfirst | hfirst
  · exact .inl hfirst
  · obtain ⟨hcount, hbits⟩ := mod_lt_of_firstByte_eq hlt hmost hfirst
    rw [hcount]
    exact .inr ⟨hfirst, lastBytes_append_lt hbits s t⟩

theorem encode_lt_encode {s t : List Char} (h : s < t) : encode s < encode t := by
  induction t generalizing s with
  | nil => exact absurd h (List.not_lt_nil s)
  | cons d t ih =>
      cases s with
      | nil =>
          rw [encode, encode, List.flatMap_nil, List.flatMap_cons, encodeChar_eq]
          exact List.nil_lt_cons _ _
      | cons c s =>
          rw [encode, encode, List.flatMap_cons, List.flatMap_cons]
          rcases List.cons_lt_cons_iff.mp h with hlt | ⟨rfl, hrest⟩
          · exact encodeChar_append_lt hlt _ _
          · exact List.append_left_lt (ih hrest)

theorem compare_eq_lt {s t : List UInt8} (h : s < t) : compare s t = .lt := by
  induction t generalizing s with
  | nil => exact absurd h (List.not_lt_nil s)
  | cons b t ih =>
      cases s with
      | nil => rfl
      | cons a s =>
          rw [List.compare_cons_cons]
          rcases List.cons_lt_cons_iff.mp h with hlt | ⟨rfl, hrest⟩
          · rw [Std.compare_eq_lt.mpr hlt]
            rfl
          · rw [Std.compare_self, ih hrest]
            rfl

end Daybook.Utf8
