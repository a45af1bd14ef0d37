import Daybook.Proofs.Json.Scalars

namespace Daybook

theorem Members.ofList_of_pairwise {α : Type} {members : List (String × α)}
    (h : members.Pairwise fun m n => m.1 < n.1) : ofList members = members := by
  induction members with
  | nil => rfl
  | cons m rest ih =>
      rw [List.pairwise_cons] at h
      have hrest : ofList (m :: rest) = insertNew m.1 m.2 (ofList rest) := rfl
      rw [hrest, ih h.2]
      cases rest with
      | nil => rfl
      | cons n rest => rw [insertNew, if_pos (h.1 n List.mem_cons_self)]

namespace Json

/-- A value as it is read back: with the members of each object by name. -/
def canonical : Json → Json
  | .null => .null
  | .bool b => .bool b
  | .int v => .int v
  | .float bits => .float bits
  | .str s => .str s
  | .arr items => .arr (items.map canonical)
  | .obj members => .obj (Members.ofList (members.map fun m => (m.1, canonical m.2)))
decreasing_by
  · have := List.sizeOf_lt_of_mem ‹_ ∈ items›
    simp only [arr.sizeOf_spec]
    omega
  · have := List.sizeOf_lt_of_mem ‹m ∈ members›
    have : sizeOf m = 1 + sizeOf m.1 + sizeOf m.2 := rfl
    simp only [obj.sizeOf_spec]
    omega

/-- All numbers of a value are integers of 64 bits, and its lists and objects are nested at most `depth`
deep. -/
inductive Fits : (depth : Nat) → Json → Prop where
  | null {depth : Nat} : Fits depth .null
  | bool {depth : Nat} (b : Bool) : Fits depth (.bool b)
  | int {depth : Nat} {v : Int} (low : minInt64 ≤ v) (high : v ≤ maxNat64) : Fits depth (.int v)
  | str {depth : Nat} (s : String) : Fits depth (.str s)
  | arr {depth : Nat} {items : List Json} (h : ∀ item ∈ items, Fits depth item) :
      Fits (depth + 1) (.arr items)
  | obj {depth : Nat} {members : List (String × Json)} (h : ∀ m ∈ members, Fits depth m.2) :
      Fits (depth + 1) (.obj members)

theorem endsNumber_cons {c : Char} (h : c = ',' ∨ c = ']' ∨ c = '\x7d') (rest : List Char) :
    EndsNumber (c :: rest) := by
  rintro d ⟨⟩
  rcases h with rfl | rfl | rfl <;> decide

theorem endsNumber_flatMap {α : Type} (f : α → List Char) (l : List α) {c : Char}
    (h : c = ']' ∨ c = '\x7d') (rest : List Char) :
    EndsNumber (l.flatMap (fun a => ',' :: f a) ++ c :: rest) := by
  cases l with
  | nil => exact endsNumber_cons (.inr h) rest
  | cons a l => exact endsNumber_cons (.inl rfl) _

theorem intercalate_cons (piece : List Char) (pieces : List (List Char)) :
    [','].intercalate (piece :: pieces) = piece ++ pieces.flatMap fun p => ',' :: p := by
  induction pieces generalizing piece with
  | nil => simp
  | cons next pieces ih => rw [List.intercalate_cons_cons, ih, List.flatMap_cons]; simp

section Parts

variable (depth : Nat) (rest : List Char)

theorem value_null : value depth ('n' :: 'u' :: 'l' :: 'l' :: rest) = .ok (.null, rest) := by
  rw [value, skipGap_cons (by decide)]
  rfl

theorem value_true : value depth ('t' :: 'r' :: 'u' :: 'e' :: rest) = .ok (.bool true, rest) := by
  rw [value, skipGap_cons (by decide)]
  rfl

theorem value_false :
    value depth ('f' :: 'a' :: 'l' :: 's' :: 'e' :: rest) = .ok (.bool false, rest) := by
  rw [value, skipGap_cons (by decide)]
  rfl

theorem value_minus : value depth ('-' :: rest) = number true rest := by
  rw [value, skipGap_cons (by decide)]
  rfl

theorem value_quote :
    value depth ('"' :: rest) = (string rest).map fun (s, rest) => (.str s, rest) := by
  rw [value, skipGap_cons (by decide)]
  rfl

theorem value_bracket : value (depth + 1) ('[' :: rest) =
    (items (value depth) rest true [] rest).map fun (js, rest) => (.arr js, rest) := by
  rw [value, skipGap_cons (by decide)]
  rfl

theorem value_brace : value (depth + 1) ('\x7b' :: rest) =
    (members (enter (value depth)) rest true [] rest).map fun (ms, rest) =>
      (.obj (Members.ofReversed ms), rest) := by
  rw [value, skipGap_cons (by decide)]
  rfl

theorem isGap_of_isDigit {c : Char} (h : c.isDigit) : isGap c = false := by
  have hne : ∀ d : Char, d.isDigit = false → (c == d) = false := by
    intro d hd
    rw [beq_eq_false_iff_ne]
    rintro rfl
    rw [hd] at h
    cases h
  simp only [isGap, hne _ (by decide : ' '.isDigit = false), hne _ (by decide : '\t'.isDigit = false),
    hne _ (by decide : '\n'.isDigit = false), hne _ (by decide : '\r'.isDigit = false), Bool.or_self]

theorem value_digit {c : Char} (h : c.isDigit) :
    value depth (c :: rest) = number false (c :: rest) := by
  rw [value, skipGap_cons (isGap_of_isDigit h)]
  split <;> rename_i heq <;> cases heq
  case h_9.refl => exact if_pos h
  all_goals exact absurd h (by decide)

end Parts

theorem value_integer (depth : Nat) {v : Int} (low : minInt64 ≤ v) (high : v ≤ maxNat64)
    {rest : List Char} (hrest : EndsNumber rest) :
    value depth (Digits.integer v ++ rest) = .ok (.int v, rest) := by
  unfold minInt64 at low
  unfold maxNat64 at high
  unfold Digits.integer
  split
  · rename_i hneg
    rw [List.cons_append, value_minus, number_decimal true (by unfold maxNat64; omega) hrest,
      wholeNumber, if_neg (by decide), if_neg (by omega)]
    congr 3
    omega
  · rename_i hpos
    obtain ⟨c, ds, hds⟩ := List.exists_cons_of_ne_nil (Digits.decimal_ne_nil v.natAbs)
    have hc : c.isDigit := Digits.isDigit_of_mem_decimal (hds ▸ List.mem_cons_self)
    have hnumber := number_decimal false (n := v.natAbs) (by unfold maxNat64; omega) hrest
    rw [hds] at hnumber ⊢
    rw [List.cons_append, value_digit depth _ hc, ← List.cons_append, hnumber, wholeNumber,
      if_pos (by decide)]
    congr 3
    omega

theorem Fits.render_eq_cons {depth : Nat} {j : Json} (h : Fits depth j) :
    ∃ c text, j.render = c :: text ∧ isGap c = false ∧ c ≠ ']' := by
  cases h with
  | null => exact ⟨_, _, by rw [render], by decide, by decide⟩
  | bool b => cases b <;> exact ⟨_, _, by rw [render], by decide, by decide⟩
  | @int _ v =>
      rw [render]
      unfold Digits.integer
      split
      · exact ⟨_, _, rfl, by decide, by decide⟩
      · obtain ⟨c, ds, hds⟩ := List.exists_cons_of_ne_nil (Digits.decimal_ne_nil v.natAbs)
        have hc : c.isDigit := Digits.isDigit_of_mem_decimal (hds ▸ List.mem_cons_self)
        exact ⟨c, ds, hds, isGap_of_isDigit hc, fun heq => absurd (heq ▸ hc) (by decide)⟩
  | str s =>
      rw [render]
      exact ⟨_, _, rfl, by decide, by decide⟩
  | arr =>
      rw [render]
      exact ⟨_, _, rfl, by decide, by decide⟩
  | obj =>
      rw [render]
      exact ⟨_, _, rfl, by decide, by decide⟩

section Lists

variable {item : List Char → Except Fault (Json × List Char)}

/-- The items of a list after the first are read up to its bracket, within a budget of one character
for each. -/
theorem items_of_later {js : List Json} {depth : Nat} (hfits : ∀ j ∈ js, Fits depth j)
    (hitem : ∀ j ∈ js, ∀ rest, EndsNumber rest → item (j.render ++ rest) = .ok (j.canonical, rest))
    {budget : List Char} (hbudget : js.length < budget.length) (done : List Json)
    (rest : List Char) :
    items item budget false done (js.flatMap (fun j => ',' :: j.render) ++ ']' :: rest) =
      .ok (done.reverse ++ js.map canonical, rest) := by
  induction js generalizing budget done with
  | nil =>
      obtain ⟨b, budget, rfl⟩ := List.exists_cons_of_length_pos hbudget
      have hstep : listStep false (']' :: rest) = .ok (false, rest) := by
        rw [listStep, skipGap_cons (by decide)]
        rfl
      rw [List.flatMap_nil, List.nil_append, items, hstep, List.map_nil, List.append_nil]
      rfl
  | cons j js ih =>
      obtain ⟨b, budget, rfl⟩ := List.exists_cons_of_length_pos (Nat.zero_lt_of_lt hbudget)
      obtain ⟨c, text, hrender, hgap, hbracket⟩ := (hfits j List.mem_cons_self).render_eq_cons
      have hstep : ∀ later, listStep false (',' :: (j.render ++ later)) =
          .ok (true, j.render ++ later) := by
        intro later
        rw [hrender, List.cons_append, listStep, skipGap_cons (by decide)]
        simp only [skipGap_cons hgap, if_neg hbracket]
        rfl
      have hj := hitem j List.mem_cons_self _ (endsNumber_flatMap render js (.inl rfl) rest)
      have hrest := ih (fun k hk => hfits k (List.mem_cons_of_mem _ hk))
        (fun k hk => hitem k (List.mem_cons_of_mem _ hk)) (Nat.lt_of_succ_lt_succ hbudget)
        (j.canonical :: done)
      rw [List.reverse_cons, List.append_assoc, List.singleton_append] at hrest
      rw [List.flatMap_cons, List.append_assoc, List.cons_append, items, hstep, List.map_cons]
      simp only [Except.bind, bind, if_true, hj, hrest]

theorem items_of_intercalate {js : List Json} {depth : Nat} (hfits : ∀ j ∈ js, Fits depth j)
    (hitem : ∀ j ∈ js, ∀ rest, EndsNumber rest → item (j.render ++ rest) = .ok (j.canonical, rest))
    {budget : List Char} (hbudget : js.length < budget.length) (rest : List Char) :
    items item budget true [] ([','].intercalate (js.map render) ++ ']' :: rest) =
      .ok (js.map canonical, rest) := by
  obtain ⟨b, budget, rfl⟩ := List.exists_cons_of_length_pos (Nat.zero_lt_of_lt hbudget)
  cases js with
  | nil =>
      have hstep : listStep true (']' :: rest) = .ok (false, rest) := by
        rw [listStep, skipGap_cons (by decide)]
        rfl
      rw [List.map_nil, List.intercalate_nil, List.nil_append, items, hstep]
      rfl
  | cons j js =>
      obtain ⟨c, text, hrender, hgap, hbracket⟩ := (hfits j List.mem_cons_self).render_eq_cons
      have hstep : ∀ later, listStep true (j.render ++ later) = .ok (true, j.render ++ later) := by
        intro later
        rw [hrender, List.cons_append, listStep, skipGap_cons hgap]
        simp only [if_neg hbracket]
        rfl
      have hj := hitem j List.mem_cons_self _ (endsNumber_flatMap render js (.inl rfl) rest)
      have hrest := items_of_later (fun k hk => hfits k (List.mem_cons_of_mem _ hk))
        (fun k hk => hitem k (List.mem_cons_of_mem _ hk)) (Nat.lt_of_succ_lt_succ hbudget)
        [j.canonical] rest
      rw [List.map_cons, intercalate_cons, List.flatMap_map, List.append_assoc, items, hstep,
        List.map_cons]
      simp only [Except.bind, bind, if_true, hj, hrest, List.reverse_singleton,
        List.singleton_append]

end Lists

theorem length_lt_intercalate {α : Type} {f : α → List Char} {l : List α}
    (h : ∀ a ∈ l, f a ≠ []) (c : Char) (rest : List Char) :
    l.length < ([','].intercalate (l.map f) ++ c :: rest).length := by
  rw [List.length_append, List.length_cons]
  induction l with
  | nil => simp
  | cons a l ih =>
      have ha := List.length_pos_iff.mpr (h a List.mem_cons_self)
      have hl := ih fun b hb => h b (List.mem_cons_of_mem _ hb)
      rw [List.map_cons]
      cases hpieces : l.map f with
      | nil =>
          rw [List.map_eq_nil_iff.mp hpieces, List.intercalate_singleton, List.length_singleton]
          omega
      | cons next pieces =>
          rw [hpieces] at hl
          rw [List.intercalate_cons_cons, List.length_append, List.length_append, List.length_cons,
            List.length_singleton]
          omega

section Members

variable {σ : Type} {member : String → σ → List Char → Except Fault (σ × List Char)}

/-- A member as it is written. -/
def memberText (m : String × Json) : List Char := quoted m.1 ++ ':' :: m.2.render

/-- Members that are read one after the other, and the states before and after them. -/
inductive Reads (member : String → σ → List Char → Except Fault (σ × List Char)) :
    σ → List (String × Json) → σ → Prop where
  | nil {s : σ} : Reads member s [] s
  | cons {s next last : σ} {m : String × Json} {ms : List (String × Json)}
      (h : ∀ rest, EndsNumber rest → member m.1 s (':' :: m.2.render ++ rest) = .ok (next, rest))
      (more : Reads member next ms last) : Reads member s (m :: ms) last

theorem members_of_later {s last : σ} {ms : List (String × Json)} (h : Reads member s ms last)
    {budget : List Char} (hbudget : ms.length < budget.length) (rest : List Char) :
    members member budget false s (ms.flatMap (fun m => ',' :: memberText m) ++ '\x7d' :: rest) =
      .ok (last, rest) := by
  induction h generalizing budget with
  | nil =>
      obtain ⟨b, budget, rfl⟩ := List.exists_cons_of_length_pos hbudget
      have hstep : objectStep false ('\x7d' :: rest) = .ok (false, rest) := by
        rw [objectStep, skipGap_cons (by decide)]
        rfl
      rw [List.flatMap_nil, List.nil_append, members, hstep]
      rfl
  | @cons s next last m ms h _ ih =>
      obtain ⟨b, budget, rfl⟩ := List.exists_cons_of_length_pos (Nat.zero_lt_of_lt hbudget)
      have hmember := h _ (endsNumber_flatMap memberText ms (.inr rfl) rest)
      obtain ⟨text, hquoted, hstring⟩ := string_quoted m.1
        (':' :: m.2.render ++ (ms.flatMap (fun m => ',' :: memberText m) ++ '\x7d' :: rest))
      have hstep : objectStep false (',' :: '"' :: text) = .ok (true, text) := by
        rw [objectStep, skipGap_cons (by decide)]
        rfl
      rw [List.flatMap_cons, List.cons_append, List.cons_append, memberText, List.append_assoc,
        List.append_assoc, hquoted, members, hstep]
      simp only [Except.bind, bind, if_true, hstring, hmember, ih (Nat.lt_of_succ_lt_succ hbudget)]

theorem members_of_intercalate {s last : σ} {ms : List (String × Json)}
    (h : Reads member s ms last) {budget : List Char} (hbudget : ms.length < budget.length)
    (rest : List Char) :
    members member budget true s ([','].intercalate (ms.map memberText) ++ '\x7d' :: rest) =
      .ok (last, rest) := by
  obtain ⟨b, budget, rfl⟩ := List.exists_cons_of_length_pos (Nat.zero_lt_of_lt hbudget)
  cases h with
  | nil =>
      have hstep : objectStep true ('\x7d' :: rest) = .ok (false, rest) := by
        rw [objectStep, skipGap_cons (by decide)]
        rfl
      rw [List.map_nil, List.intercalate_nil, List.nil_append, members, hstep]
      rfl
  | @cons _ next _ m ms h more =>
      have hmember := h _ (endsNumber_flatMap memberText ms (.inr rfl) rest)
      obtain ⟨text, hquoted, hstring⟩ := string_quoted m.1
        (':' :: m.2.render ++ (ms.flatMap (fun m => ',' :: memberText m) ++ '\x7d' :: rest))
      have hstep : objectStep true ('"' :: text) = .ok (true, text) := by
        rw [objectStep, skipGap_cons (by decide)]
        rfl
      rw [List.map_cons, intercalate_cons, List.flatMap_map, memberText, List.append_assoc,
        List.append_assoc, hquoted, members, hstep]
      simp only [Except.bind, bind, if_true, hstring, hmember,
        members_of_later more (Nat.lt_of_succ_lt_succ hbudget)]

end Members

theorem enter_colon {depth : Nat} {j : Json} {rest : List Char}
    (h : value depth (j.render ++ rest) = .ok (j.canonical, rest)) (name : String)
    (entered : List (String × Json)) :
    enter (value depth) name entered (':' :: j.render ++ rest) =
      .ok ((name, j.canonical) :: entered, rest) := by
  have hcolon : colon (':' :: (j.render ++ rest)) = .ok (j.render ++ rest) := by
    rw [colon, skipGap_cons (by decide)]
    rfl
  rw [List.cons_append, enter, hcolon]
  simp only [Except.bind, bind, h]
  rfl

theorem reads_enter {depth : Nat} {ms : List (String × Json)}
    (h : ∀ m ∈ ms, ∀ rest, EndsNumber rest →
      value depth (m.2.render ++ rest) = .ok (m.2.canonical, rest))
    (entered : List (String × Json)) :
    Reads (enter (value depth)) entered ms
      ((ms.map fun m => (m.1, m.2.canonical)).reverse ++ entered) := by
  induction ms generalizing entered with
  | nil => exact .nil
  | cons m ms ih =>
      refine .cons (fun rest hrest => enter_colon (h m List.mem_cons_self rest hrest) m.1 entered) ?_
      rw [List.map_cons, List.reverse_cons, List.append_assoc]
      exact ih (fun k hk => h k (List.mem_cons_of_mem _ hk)) _

/-- A rendered value is read back in its canonical form, and nothing of what follows it. -/
theorem value_render {depth : Nat} {j : Json} (h : Fits depth j) {rest : List Char}
    (hrest : EndsNumber rest) : value depth (j.render ++ rest) = .ok (j.canonical, rest) := by
  induction h generalizing rest with
  | null =>
      rw [render, canonical]
      exact value_null _ rest
  | bool b =>
      cases b <;> rw [render, canonical]
      · exact value_false _ rest
      · exact value_true _ rest
  | int low high =>
      rw [render, canonical]
      exact value_integer _ low high hrest
  | str s =>
      obtain ⟨text, hquoted, hstring⟩ := string_quoted s rest
      rw [render, canonical, hquoted, value_quote, hstring]
      rfl
  | @arr depth js h ih =>
      have hbudget : js.length < ([','].intercalate (js.map render) ++ ']' :: rest).length := by
        refine length_lt_intercalate (fun j hj => ?_) _ _
        obtain ⟨c, text, hrender, -⟩ := (h j hj).render_eq_cons
        rw [hrender]
        exact List.cons_ne_nil _ _
      rw [render, canonical, List.append_assoc, List.cons_append, List.singleton_append,
        value_bracket, items_of_intercalate h (fun j hj rest => ih j hj) hbudget]
      rfl
  | @obj depth ms h ih =>
      have hbudget : ms.length < ([','].intercalate (ms.map memberText) ++ '\x7d' :: rest).length :=
        length_lt_intercalate (fun m _ => List.cons_ne_nil _ _) _ _
      have hreads := reads_enter (fun m hm rest => ih m hm) []
      have hobject : render (.obj ms) ++ rest =
          '\x7b' :: ([','].intercalate (ms.map memberText) ++ '\x7d' :: rest) := by
        rw [render, List.append_assoc, List.cons_append, List.singleton_append]
        rfl
      rw [hobject, canonical, value_brace, members_of_intercalate hreads hbudget, List.append_nil]
      simp only [Except.map, Members.ofReversed_eq, List.reverse_reverse]

theorem parse_render {j : Json} (h : Fits maxDepth j) : parse j.render = .ok j.canonical := by
  have hend : EndsNumber [] := fun c hc => by cases hc
  have hvalue := value_render h hend
  rw [List.append_nil] at hvalue
  rw [parse, hvalue]
  rfl

/-- A value that is read back as it is: it fits, and the members of its objects are in order. -/
structure IsStable (depth : Nat) (j : Json) : Prop where
  fits : Fits depth j
  canonical_eq : j.canonical = j

namespace IsStable

variable {depth : Nat}

theorem str (s : String) : IsStable depth (.str s) := ⟨.str s, by rw [canonical]⟩

theorem bool (b : Bool) : IsStable depth (.bool b) := ⟨.bool b, by rw [canonical]⟩

theorem int {v : Int} (low : minInt64 ≤ v) (high : v ≤ maxNat64) : IsStable depth (.int v) :=
  ⟨.int low high, by rw [canonical]⟩

theorem arr {items : List Json} (h : ∀ item ∈ items, IsStable depth item) :
    IsStable (depth + 1) (.arr items) where
  fits := .arr fun item hitem => (h item hitem).fits
  canonical_eq := by
    rw [canonical, List.map_congr_left fun item hitem => (h item hitem).canonical_eq, List.map_id']

theorem map_canonical {members : List (String × Json)}
    (h : ∀ m ∈ members, IsStable depth m.2) :
    members.map (fun m => (m.1, m.2.canonical)) = members := by
  have hsame : ∀ m ∈ members, (m.1, m.2.canonical) = m := by
    intro m hm
    rw [(h m hm).canonical_eq]
  rw [List.map_congr_left hsame, List.map_id']

theorem obj {members : List (String × Json)} (hsorted : (members.map Prod.fst).Pairwise (· < ·))
    (h : ∀ m ∈ members, IsStable depth m.2) : IsStable (depth + 1) (.obj members) where
  fits := .obj fun m hm => (h m hm).fits
  canonical_eq := by
    rw [canonical, map_canonical h, Members.ofList_of_pairwise (List.pairwise_map.mp hsorted)]

end IsStable

end Json

end Daybook
