import Daybook.Proofs.Json.Canonical
import Daybook.Proofs.Json.Letters
import Daybook.Proofs.Json.Steps
import Mathlib.Data.List.DropRight

/-!
Values as they are written. A written value keeps what its text says: its numerals digit by digit,
and the members of its objects in their order, also where a name is repeated. A text spells one
written value at most, the reader of values reads nothing but what is spelled, and what it yields is
what is written there.
-/

namespace Daybook.Json

/-- A value as it is written. -/
inductive Written where
  | null
  | bool (b : Bool)
  | number (n : Numeral)
  | str (s : String)
  | arr (items : List Written)
  | obj (members : List (String × Written))

/-- A part of a text: a value, the items of a list or the members of an object from one place on, or
a member. The first item and the first member have no comma before them. -/
inductive Part where
  | value (w : Written)
  | items (first : Bool) (ws : List Written)
  | member (m : String × Written)
  | members (first : Bool) (ms : List (String × Written))

/-- A text begins with the spelling of a part, after which `rest` follows. -/
inductive Spells : Part → (text rest : List Char) → Prop where
  | null {text rest : List Char} (h : skipGap text = ['n', 'u', 'l', 'l'] ++ rest) :
      Spells (.value .null) text rest
  | yes {text rest : List Char} (h : skipGap text = ['t', 'r', 'u', 'e'] ++ rest) :
      Spells (.value (.bool true)) text rest
  | no {text rest : List Char} (h : skipGap text = ['f', 'a', 'l', 's', 'e'] ++ rest) :
      Spells (.value (.bool false)) text rest
  | number {n : Numeral} {text rest : List Char} (h : skipGap text = n.text ++ rest)
      (hends : EndsAfter n.fraction n.exponent rest) : Spells (.value (.number n)) text rest
  | str {chars text inner rest : List Char} (h : skipGap text = '"' :: inner)
      (hchars : SpellsChars chars inner rest) :
      Spells (.value (.str (String.ofList chars))) text rest
  | arr {ws : List Written} {text inner rest : List Char} (h : skipGap text = '[' :: inner)
      (hitems : Spells (.items true ws) inner rest) : Spells (.value (.arr ws)) text rest
  | obj {ms : List (String × Written)} {text inner rest : List Char}
      (h : skipGap text = '\x7b' :: inner) (hmembers : Spells (.members true ms) inner rest) :
      Spells (.value (.obj ms)) text rest
  | noItem {first : Bool} {text rest : List Char} (h : skipGap text = ']' :: rest) :
      Spells (.items first []) text rest
  | firstItem {w : Written} {ws : List Written} {text next rest : List Char}
      (hitem : Spells (.value w) text next) (more : Spells (.items false ws) next rest) :
      Spells (.items true (w :: ws)) text rest
  | nextItem {w : Written} {ws : List Written} {text inner next rest : List Char}
      (h : skipGap text = ',' :: inner) (hitem : Spells (.value w) inner next)
      (more : Spells (.items false ws) next rest) : Spells (.items false (w :: ws)) text rest
  | member {chars : List Char} {w : Written} {text inner after begun rest : List Char}
      (h : skipGap text = '"' :: inner) (hname : SpellsChars chars inner after)
      (hcolon : skipGap after = ':' :: begun) (hvalue : Spells (.value w) begun rest) :
      Spells (.member (String.ofList chars, w)) text rest
  | noMember {first : Bool} {text rest : List Char} (h : skipGap text = '\x7d' :: rest) :
      Spells (.members first []) text rest
  | firstMember {m : String × Written} {ms : List (String × Written)} {text next rest : List Char}
      (hmember : Spells (.member m) text next) (more : Spells (.members false ms) next rest) :
      Spells (.members true (m :: ms)) text rest
  | nextMember {m : String × Written} {ms : List (String × Written)}
      {text inner next rest : List Char} (h : skipGap text = ',' :: inner)
      (hmember : Spells (.member m) inner next) (more : Spells (.members false ms) next rest) :
      Spells (.members false (m :: ms)) text rest

/-- What a written value is. A name in an object stands for the last of its members. -/
inductive Written.Means : Written → Json → Prop where
  | null : Means .null .null
  | bool (b : Bool) : Means (.bool b) (.bool b)
  | number {n : Numeral} {j : Json} (h : n.IsReadAs j) : Means (.number n) j
  | str (s : String) : Means (.str s) (.str s)
  | arr {ws : List Written} {js : List Json} (h : List.Forall₂ Means ws js) :
      Means (.arr ws) (.arr js)
  | obj {ms : List (String × Written)} {read : List (String × Json)}
      (sorted : Members.IsSorted read)
      (h : ∀ name, Option.Rel Means (Members.last? name ms) (read.lookup name)) :
      Means (.obj ms) (.obj read)

section Unique

variable {text rest : List Char}

/-- The form of a value, which its first character tells. -/
inductive Form where
  | null
  | bool (b : Bool)
  | number
  | str
  | arr
  | obj

def Written.form : Written → Form
  | .null => .null
  | .bool b => .bool b
  | .number _ => .number
  | .str _ => .str
  | .arr _ => .arr
  | .obj _ => .obj

def formOf? (c : Char) : Option Form :=
  match c with
  | 'n' => some .null
  | 't' => some (.bool true)
  | 'f' => some (.bool false)
  | '-' => some .number
  | '"' => some .str
  | '[' => some .arr
  | '\x7b' => some .obj
  | c => if c.isDigit then some .number else none

theorem formOf?_of_isDigit {c : Char} (h : c.isDigit) : formOf? c = some .number := by
  unfold formOf?
  split <;> first | cases h | exact if_pos h

theorem Numeral.exists_text_eq_cons (n : Numeral) :
    ∃ c later, n.text = c :: later ∧ formOf? c = some .number := by
  cases hnegative : n.negative with
  | true => exact ⟨'-', n.unsigned, text_of_negative hnegative, rfl⟩
  | false =>
      obtain ⟨c, ds, hwhole⟩ := List.exists_cons_of_ne_nil n.isWhole.1.1
      refine ⟨c, ds ++ (n.fraction ++ n.exponent), ?_, formOf?_of_isDigit ?_⟩
      · rw [text_of_not_negative hnegative, unsigned, hwhole, List.cons_append]
      · exact n.isWhole.1.2 c (hwhole ▸ List.mem_cons_self)

theorem Spells.form_eq {w : Written} (h : Spells (.value w) text rest) :
    (skipGap text).head?.bind formOf? = some w.form := by
  cases h with
  | null h | yes h | no h | str h | arr h | obj h =>
      rw [h]
      rfl
  | @number n _ _ h =>
      obtain ⟨c, later, htext, hc⟩ := n.exists_text_eq_cons
      rw [h, htext]
      exact hc

theorem Spells.head_ne {w : Written} {c : Char} {later : List Char}
    (h : Spells (.value w) text rest) (hc : formOf? c = none) : skipGap text ≠ c :: later := by
  intro htext
  have hform := h.form_eq
  rw [htext, List.head?_cons, Option.bind_some, hc] at hform
  cases hform

/-- No other part of its kind is spelled where this part is. -/
def Part.IsOnly (text rest : List Char) : Part → Prop
  | .value w => ∀ w' rest', Spells (.value w') text rest' → w = w' ∧ rest = rest'
  | .items first ws => ∀ ws' rest', Spells (.items first ws') text rest' → ws = ws' ∧ rest = rest'
  | .member m => ∀ m' rest', Spells (.member m') text rest' → m = m' ∧ rest = rest'
  | .members first ms =>
      ∀ ms' rest', Spells (.members first ms') text rest' → ms = ms' ∧ rest = rest'

theorem Spells.form_unique {w w' : Written} {rest' : List Char} (h : Spells (.value w) text rest)
    (h' : Spells (.value w') text rest') : w.form = w'.form :=
  Option.some.inj (h.form_eq.symm.trans h'.form_eq)

theorem cons_inj_of_eq {c : Char} {later later' : List Char} (h : text = c :: later)
    (h' : text = c :: later') : later = later' :=
  (List.cons.inj (h.symm.trans h')).2

theorem ne_of_eq_cons {α : Prop} {c c' : Char} {later later' : List Char} (h : text = c :: later)
    (h' : text = c' :: later') (hc : c ≠ c') : α :=
  absurd (List.cons.inj (h.symm.trans h')).1 hc

/-- A text spells one value at most, and no part of it can be taken for another. -/
theorem Spells.isOnly {p : Part} (h : Spells p text rest) : p.IsOnly text rest := by
  -- on one of the two spellings; the other is of the same form, since both have one first character
  induction h with
  | null h =>
      intro w' rest' h'
      have hform := (Spells.null h).form_unique h'
      cases h' <;> cases hform
      rename_i h'
      exact ⟨rfl, List.append_cancel_left (h.symm.trans h')⟩
  | yes h =>
      intro w' rest' h'
      have hform := (Spells.yes h).form_unique h'
      cases h' <;> cases hform
      rename_i h'
      exact ⟨rfl, List.append_cancel_left (h.symm.trans h')⟩
  | no h =>
      intro w' rest' h'
      have hform := (Spells.no h).form_unique h'
      cases h' <;> cases hform
      rename_i h'
      exact ⟨rfl, List.append_cancel_left (h.symm.trans h')⟩
  | number h hends =>
      intro w' rest' h'
      have hform := (Spells.number h hends).form_unique h'
      cases h' <;> cases hform
      rename_i hends' h'
      obtain ⟨rfl, rfl⟩ := Numeral.unique hends hends' (h.symm.trans h')
      exact ⟨rfl, rfl⟩
  | str h hchars =>
      intro w' rest' h'
      have hform := (Spells.str h hchars).form_unique h'
      cases h' <;> cases hform
      rename_i h' hchars'
      obtain rfl := cons_inj_of_eq h h'
      obtain ⟨rfl, rfl⟩ := hchars.unique hchars'
      exact ⟨rfl, rfl⟩
  | arr h hitems ih =>
      intro w' rest' h'
      have hform := (Spells.arr h hitems).form_unique h'
      cases h' <;> cases hform
      rename_i h' hitems'
      obtain rfl := cons_inj_of_eq h h'
      obtain ⟨rfl, rfl⟩ := ih _ _ hitems'
      exact ⟨rfl, rfl⟩
  | obj h hmembers ih =>
      intro w' rest' h'
      have hform := (Spells.obj h hmembers).form_unique h'
      cases h' <;> cases hform
      rename_i h' hmembers'
      obtain rfl := cons_inj_of_eq h h'
      obtain ⟨rfl, rfl⟩ := ih _ _ hmembers'
      exact ⟨rfl, rfl⟩
  | noItem h =>
      intro ws' rest' h'
      cases h' with
      | noItem h' => exact ⟨rfl, cons_inj_of_eq h h'⟩
      | firstItem hitem' => exact absurd h (hitem'.head_ne rfl)
      | nextItem h' => exact ne_of_eq_cons h h' (by decide)
  | firstItem hitem _ ihitem ih =>
      intro ws' rest' h'
      cases h' with
      | noItem h' => exact absurd h' (hitem.head_ne rfl)
      | firstItem hitem' more' =>
          obtain ⟨rfl, rfl⟩ := ihitem _ _ hitem'
          obtain ⟨rfl, rfl⟩ := ih _ _ more'
          exact ⟨rfl, rfl⟩
  | nextItem h _ _ ihitem ih =>
      intro ws' rest' h'
      cases h' with
      | noItem h' => exact ne_of_eq_cons h h' (by decide)
      | nextItem h' hitem' more' =>
          obtain rfl := cons_inj_of_eq h h'
          obtain ⟨rfl, rfl⟩ := ihitem _ _ hitem'
          obtain ⟨rfl, rfl⟩ := ih _ _ more'
          exact ⟨rfl, rfl⟩
  | member h hname hcolon _ ih =>
      intro m' rest' h'
      cases h' with
      | member h' hname' hcolon' hvalue' =>
          obtain rfl := cons_inj_of_eq h h'
          obtain ⟨rfl, rfl⟩ := hname.unique hname'
          obtain rfl := cons_inj_of_eq hcolon hcolon'
          obtain ⟨rfl, rfl⟩ := ih _ _ hvalue'
          exact ⟨rfl, rfl⟩
  | noMember h =>
      intro ms' rest' h'
      cases h' with
      | noMember h' => exact ⟨rfl, cons_inj_of_eq h h'⟩
      | firstMember hmember' =>
          cases hmember' with
          | member h' => exact ne_of_eq_cons h h' (by decide)
      | nextMember h' => exact ne_of_eq_cons h h' (by decide)
  | firstMember hmember _ ihmember ih =>
      intro ms' rest' h'
      cases h' with
      | noMember h' =>
          cases hmember with
          | member h => exact ne_of_eq_cons h h' (by decide)
      | firstMember hmember' more' =>
          obtain ⟨rfl, rfl⟩ := ihmember _ _ hmember'
          obtain ⟨rfl, rfl⟩ := ih _ _ more'
          exact ⟨rfl, rfl⟩
  | nextMember h _ _ ihmember ih =>
      intro ms' rest' h'
      cases h' with
      | noMember h' => exact ne_of_eq_cons h h' (by decide)
      | nextMember h' hmember' more' =>
          obtain rfl := cons_inj_of_eq h h'
          obtain ⟨rfl, rfl⟩ := ihmember _ _ hmember'
          obtain ⟨rfl, rfl⟩ := ih _ _ more'
          exact ⟨rfl, rfl⟩

end Unique

section Reading

variable {text rest : List Char}

theorem skipGap_skipGap (text : List Char) : skipGap (skipGap text) = skipGap text :=
  List.dropWhile_idempotent _ _

theorem Spells.of_skipGap {w : Written} (h : Spells (.value w) (skipGap text) rest) :
    Spells (.value w) text rest := by
  have hgap := skipGap_skipGap text
  cases h with
  | null h => exact .null (hgap ▸ h)
  | yes h => exact .yes (hgap ▸ h)
  | no h => exact .no (hgap ▸ h)
  | number h hends => exact .number (hgap ▸ h) hends
  | str h hchars => exact .str (hgap ▸ h) hchars
  | arr h hitems => exact .arr (hgap ▸ h) hitems
  | obj h hmembers => exact .obj (hgap ▸ h) hmembers

/-- What is read in some place as a value is spelled there. -/
def IsFaithful (item : List Char → Except Fault (Json × List Char)) : Prop :=
  ∀ {text rest j}, item text = .ok (j, rest) → ∃ w, Spells (.value w) text rest ∧ w.Means j

theorem ListRead.exists_written {item : List Char → Except Fault (Json × List Char)}
    (hitem : IsFaithful item) {first : Bool} {js : List Json}
    (h : ListRead item first text js rest) :
    ∃ ws, Spells (.items first ws) text rest ∧ List.Forall₂ Written.Means ws js := by
  induction h with
  | nil h => exact ⟨[], .noItem h, .nil⟩
  | first ha _ ih =>
      obtain ⟨w, hw, hmeans⟩ := hitem ha
      obtain ⟨ws, hws, hall⟩ := ih
      exact ⟨w :: ws, .firstItem hw.of_skipGap hws, .cons hmeans hall⟩
  | next hcomma ha _ ih =>
      obtain ⟨w, hw, hmeans⟩ := hitem ha
      obtain ⟨ws, hws, hall⟩ := ih
      exact ⟨w :: ws, .nextItem hcomma hw.of_skipGap hws, .cons hmeans hall⟩

/-- A member has the name and the value that were written. -/
def IsMemberOf (m : String × Written) (read : String × Json) : Prop :=
  m.1 = read.1 ∧ m.2.Means read.2

theorem exists_member {item : List Char → Except Fault (Json × List Char)}
    (hitem : IsFaithful item) {name : String} {entered entered' : List (String × Json)}
    {inner after : List Char} (h : skipGap text = '"' :: inner)
    (hname : string inner = .ok (name, after))
    (hmember : enter item name entered after = .ok (entered', rest)) :
    ∃ m read, Spells (.member m) text rest ∧ entered' = read :: entered ∧ IsMemberOf m read := by
  obtain ⟨begun, j, hcolon, hj, rfl⟩ := enter_eq_ok hmember
  obtain ⟨w, hw, hmeans⟩ := hitem hj
  rw [← String.ofList_toList (s := name)] at hname
  have hchars := string_eq_ok_iff.mp hname
  refine ⟨(String.ofList name.toList, w), (name, j), .member h hchars hcolon hw, rfl, ?_, hmeans⟩
  exact String.ofList_toList

theorem ObjectRead.exists_written {item : List Char → Except Fault (Json × List Char)}
    (hitem : IsFaithful item) {first : Bool} {entered last : List (String × Json)}
    (h : ObjectRead (enter item) first entered text last rest) :
    ∃ ms read, Spells (.members first ms) text rest ∧ last = read.reverse ++ entered ∧
      List.Forall₂ IsMemberOf ms read := by
  induction h with
  | nil h => exact ⟨[], [], .noMember h, rfl, .nil⟩
  | first h hname hmember _ ih =>
      obtain ⟨m, r, hm, rfl, hmeans⟩ := exists_member hitem h hname hmember
      obtain ⟨ms, read, hms, rfl, hall⟩ := ih
      exact ⟨m :: ms, r :: read, .firstMember hm hms, by simp, .cons hmeans hall⟩
  | next hcomma h hname hmember _ ih =>
      obtain ⟨m, r, hm, rfl, hmeans⟩ := exists_member hitem h hname hmember
      obtain ⟨ms, read, hms, rfl, hall⟩ := ih
      exact ⟨m :: ms, r :: read, .nextMember hcomma hm hms, by simp, .cons hmeans hall⟩

theorem lookup_rel {name : String} {ms : List (String × Written)} {read : List (String × Json)}
    (h : List.Forall₂ IsMemberOf ms read) :
    Option.Rel Written.Means (ms.lookup name) (read.lookup name) := by
  induction h with
  | nil => exact .none
  | @cons m r ms read hm _ ih =>
      rw [List.lookup_cons, List.lookup_cons, hm.1]
      cases name == r.1 with
      | true => exact .some hm.2
      | false => exact ih

theorem means_obj {ms : List (String × Written)} {read : List (String × Json)}
    (h : List.Forall₂ IsMemberOf ms read) :
    Written.Means (.obj ms) (.obj (Members.ofReversed read.reverse)) := by
  rw [Members.ofReversed_eq, List.reverse_reverse]
  refine .obj (Members.isSorted_ofList read) fun name => ?_
  rw [Members.lookup_ofList]
  exact lookup_rel (List.rel_reverse h)

/-- What the reader of values reads is spelled, and it is what is written there. -/
theorem isFaithful_value (depth : Nat) : IsFaithful (value depth) := by
  -- by the depth, since items and members are read by the reader of the depth below
  induction depth using Nat.strongRecOn with
  | ind depth ih =>
      intro text rest j hread
      cases value_eq_ok hread with
      | null h => exact ⟨.null, .null h, .null⟩
      | yes h => exact ⟨.bool true, .yes h, .bool true⟩
      | no h => exact ⟨.bool false, .no h, .bool false⟩
      | @number n _ _ h hends hread => exact ⟨.number n, .number h hends, .number hread⟩
      | str h hs =>
          obtain ⟨chars, rfl, hchars⟩ := spellsChars_of_stringFrom hs
          exact ⟨_, .str h hchars, .str _⟩
      | arr hdepth h hitems =>
          obtain ⟨ws, hws, hall⟩ := hitems.exists_written (ih _ (hdepth ▸ Nat.lt_succ_self _))
          exact ⟨.arr ws, .arr h hws, .arr hall⟩
      | obj hdepth h hmembers =>
          obtain ⟨ms, read, hms, rfl, hall⟩ :=
            hmembers.exists_written (ih _ (hdepth ▸ Nat.lt_succ_self _))
          rw [List.append_nil]
          exact ⟨.obj ms, .obj h hms, means_obj hall⟩

end Reading

end Daybook.Json
