import Daybook.Proofs.Except
import Daybook.Proofs.Json.Numerals

namespace Daybook.Json

variable {α σ : Type} {text rest : List Char}

theorem word_eq_ok {letters : List Char} (h : word letters text = .ok rest) :
    text = letters ++ rest := by
  induction letters generalizing text with
  | nil =>
      cases h
      rfl
  | cons l letters ih =>
      cases text with
      | nil => cases h
      | cons c text =>
          rw [word] at h
          split at h
          · rename_i hc
            rw [hc, ih h, List.cons_append]
          · cases h

section Lists

/-- The items of a list from one place on, read one after the other up to the closing bracket. -/
inductive ListRead (item : List Char → Except Fault (α × List Char)) :
    (first : Bool) → (text : List Char) → List α → (rest : List Char) → Prop where
  | nil {first : Bool} {text rest : List Char} (h : skipGap text = ']' :: rest) :
      ListRead item first text [] rest
  | first {text next rest : List Char} {a : α} {l : List α}
      (ha : item (skipGap text) = .ok (a, next)) (more : ListRead item false next l rest) :
      ListRead item true text (a :: l) rest
  | next {text inner next rest : List Char} {a : α} {l : List α} (h : skipGap text = ',' :: inner)
      (ha : item (skipGap inner) = .ok (a, next)) (more : ListRead item false next l rest) :
      ListRead item false text (a :: l) rest

theorem listStep_eq_ok {first more : Bool} {next : List Char}
    (h : listStep first text = .ok (more, next)) :
    (more = false ∧ skipGap text = ']' :: next) ∨
      (more = true ∧ first = true ∧ next = skipGap text) ∨
      (more = true ∧ first = false ∧
        ∃ inner, skipGap text = ',' :: inner ∧ next = skipGap inner) := by
  rw [listStep] at h
  split at h
  · cases h
  · rename_i c later htext
    split at h
    · rename_i hc
      cases h
      exact .inl ⟨rfl, hc ▸ htext⟩
    · split at h
      · rename_i hfirst
        cases h
        exact .inr (.inl ⟨rfl, hfirst, htext.symm⟩)
      · rename_i hfirst
        split at h
        · rename_i hc
          subst hc
          split at h
          · cases h
          · rename_i hinner
            split at h
            · cases h
            · cases h
              exact .inr (.inr ⟨rfl, by simpa using hfirst, later, htext, hinner.symm⟩)
        · cases h

theorem items_eq_ok {item : List Char → Except Fault (α × List Char)} {budget : List Char}
    {first : Bool} {done l : List α} (h : items item budget first done text = .ok (l, rest)) :
    ∃ read, l = done.reverse ++ read ∧ ListRead item first text read rest := by
  induction budget generalizing first done text with
  | nil => cases h
  | cons b budget ih =>
      rw [items, bind_eq_ok_iff] at h
      obtain ⟨⟨more, next⟩, hstep, h⟩ := h
      rcases listStep_eq_ok hstep with ⟨rfl, hend⟩ | ⟨rfl, rfl, rfl⟩ |
        ⟨rfl, rfl, inner, hinner, rfl⟩
      · cases h
        exact ⟨[], (List.append_nil _).symm, .nil hend⟩
      · obtain ⟨⟨a, after⟩, ha, h⟩ := bind_eq_ok_iff.mp h
        obtain ⟨read, rfl, hread⟩ := ih h
        exact ⟨a :: read, by simp, .first ha hread⟩
      · obtain ⟨⟨a, after⟩, ha, h⟩ := bind_eq_ok_iff.mp h
        obtain ⟨read, rfl, hread⟩ := ih h
        exact ⟨a :: read, by simp, .next hinner ha hread⟩

end Lists

section Objects

/-- The members of an object from one place on, read one after the other up to the closing brace. -/
inductive ObjectRead (member : String → σ → List Char → Except Fault (σ × List Char)) :
    (first : Bool) → σ → (text : List Char) → σ → (rest : List Char) → Prop where
  | nil {first : Bool} {s : σ} {text rest : List Char} (h : skipGap text = '\x7d' :: rest) :
      ObjectRead member first s text s rest
  | first {s s' last : σ} {text inner after next rest : List Char} {name : String}
      (h : skipGap text = '"' :: inner) (hname : string inner = .ok (name, after))
      (hmember : member name s after = .ok (s', next))
      (more : ObjectRead member false s' next last rest) : ObjectRead member true s text last rest
  | next {s s' last : σ} {text begun inner after next rest : List Char} {name : String}
      (hcomma : skipGap text = ',' :: begun) (h : skipGap begun = '"' :: inner)
      (hname : string inner = .ok (name, after)) (hmember : member name s after = .ok (s', next))
      (more : ObjectRead member false s' next last rest) : ObjectRead member false s text last rest

theorem objectStep_eq_ok {first more : Bool} {next : List Char}
    (h : objectStep first text = .ok (more, next)) :
    (more = false ∧ skipGap text = '\x7d' :: next) ∨
      (more = true ∧ first = true ∧ skipGap text = '"' :: next) ∨
      (more = true ∧ first = false ∧
        ∃ begun, skipGap text = ',' :: begun ∧ skipGap begun = '"' :: next) := by
  rw [objectStep] at h
  split at h
  · cases h
  · rename_i c later htext
    split at h
    · rename_i hc
      cases h
      exact .inl ⟨rfl, hc ▸ htext⟩
    · split at h
      · rename_i hfirst
        split at h
        · rename_i hc
          cases h
          exact .inr (.inl ⟨rfl, hfirst, hc ▸ htext⟩)
        · cases h
      · rename_i hfirst
        split at h
        · rename_i hc
          subst hc
          split at h
          · cases h
          · rename_i hinner
            split at h
            · rename_i hquote
              cases h
              exact .inr (.inr ⟨rfl, by simpa using hfirst, later, htext, hquote ▸ hinner⟩)
            · split at h <;> cases h
        · cases h

theorem members_eq_ok {member : String → σ → List Char → Except Fault (σ × List Char)}
    {budget : List Char} {first : Bool} {s last : σ}
    (h : members member budget first s text = .ok (last, rest)) :
    ObjectRead member first s text last rest := by
  induction budget generalizing first s text with
  | nil => cases h
  | cons b budget ih =>
      rw [members, bind_eq_ok_iff] at h
      obtain ⟨⟨more, next⟩, hstep, h⟩ := h
      rcases objectStep_eq_ok hstep with ⟨rfl, hend⟩ | ⟨rfl, rfl, hquote⟩ |
        ⟨rfl, rfl, begun, hcomma, hquote⟩
      · cases h
        exact .nil hend
      · obtain ⟨⟨name, after⟩, hname, h⟩ := bind_eq_ok_iff.mp h
        obtain ⟨⟨s', later⟩, hmember, h⟩ := bind_eq_ok_iff.mp h
        exact .first hquote hname hmember (ih h)
      · obtain ⟨⟨name, after⟩, hname, h⟩ := bind_eq_ok_iff.mp h
        obtain ⟨⟨s', later⟩, hmember, h⟩ := bind_eq_ok_iff.mp h
        exact .next hcomma hquote hname hmember (ih h)

theorem colon_eq_ok (h : colon text = .ok rest) : skipGap text = ':' :: rest := by
  rw [colon] at h
  split at h
  · cases h
  · rename_i c later htext
    split at h
    · rename_i hc
      cases h
      exact hc ▸ htext
    · cases h

theorem enter_eq_ok {value : List Char → Except Fault (Json × List Char)} {name : String}
    {entered after : List (String × Json)} (h : enter value name entered text = .ok (after, rest)) :
    ∃ inner j, skipGap text = ':' :: inner ∧ value inner = .ok (j, rest) ∧
      after = (name, j) :: entered := by
  rw [enter, bind_eq_ok_iff] at h
  obtain ⟨inner, hcolon, h⟩ := h
  obtain ⟨⟨j, later⟩, hj, h⟩ := bind_eq_ok_iff.mp h
  cases h
  exact ⟨inner, j, colon_eq_ok hcolon, hj, rfl⟩

end Objects

/-- How a value was read in which lists and objects may be nested `depth` deep. -/
inductive ValueRead (depth : Nat) (text : List Char) : Json → (rest : List Char) → Prop where
  | null {rest : List Char} (h : skipGap text = ['n', 'u', 'l', 'l'] ++ rest) :
      ValueRead depth text .null rest
  | yes {rest : List Char} (h : skipGap text = ['t', 'r', 'u', 'e'] ++ rest) :
      ValueRead depth text (.bool true) rest
  | no {rest : List Char} (h : skipGap text = ['f', 'a', 'l', 's', 'e'] ++ rest) :
      ValueRead depth text (.bool false) rest
  | number {n : Numeral} {j : Json} {rest : List Char} (h : skipGap text = n.text ++ rest)
      (hends : EndsAfter n.fraction n.exponent rest) (hread : n.IsReadAs j) :
      ValueRead depth text j rest
  | str {s : String} {inner rest : List Char} (h : skipGap text = '"' :: inner)
      (hs : string inner = .ok (s, rest)) : ValueRead depth text (.str s) rest
  | arr {below : Nat} {items : List Json} {inner rest : List Char} (hdepth : depth = below + 1)
      (h : skipGap text = '[' :: inner) (hitems : ListRead (value below) true inner items rest) :
      ValueRead depth text (.arr items) rest
  | obj {below : Nat} {entered : List (String × Json)} {inner rest : List Char}
      (hdepth : depth = below + 1) (h : skipGap text = '\x7b' :: inner)
      (hmembers : ObjectRead (enter (value below)) true [] inner entered rest) :
      ValueRead depth text (.obj (Members.ofReversed entered)) rest

theorem value_eq_ok {depth : Nat} {j : Json} (h : value depth text = .ok (j, rest)) :
    ValueRead depth text j rest := by
  rw [value] at h
  split at h
  · cases h
  · rename_i htext
    obtain ⟨_, hword, ⟨⟩⟩ := map_eq_ok_iff.mp h
    exact .null (by rw [htext, word_eq_ok hword]; rfl)
  · rename_i htext
    obtain ⟨_, hword, ⟨⟩⟩ := map_eq_ok_iff.mp h
    exact .yes (by rw [htext, word_eq_ok hword]; rfl)
  · rename_i htext
    obtain ⟨_, hword, ⟨⟩⟩ := map_eq_ok_iff.mp h
    exact .no (by rw [htext, word_eq_ok hword]; rfl)
  · rename_i htext
    obtain ⟨n, hnegative, rfl, hends, hread⟩ := number_eq_ok h
    exact .number (by rw [htext, Numeral.text_of_negative hnegative, List.cons_append]) hends hread
  · rename_i htext
    obtain ⟨_, hs, ⟨⟩⟩ := map_eq_ok_iff.mp h
    exact .str htext hs
  · rename_i inner htext
    split at h
    · cases h
    · obtain ⟨⟨js, _⟩, hjs, ⟨⟩⟩ := map_eq_ok_iff.mp h
      obtain ⟨read, rfl, hread⟩ := items_eq_ok hjs
      exact .arr rfl htext hread
  · rename_i inner htext
    split at h
    · cases h
    · obtain ⟨⟨ms, _⟩, hms, ⟨⟩⟩ := map_eq_ok_iff.mp h
      exact .obj rfl htext (members_eq_ok hms)
  · rename_i c later _ _ _ _ _ _ _ htext
    split at h
    · obtain ⟨n, hnegative, hn, hends, hread⟩ := number_eq_ok h
      exact .number (by rw [htext, hn, Numeral.text_of_not_negative hnegative]) hends hread
    · cases h

theorem finish_eq_ok {a b : α} (h : finish (a, text) = .ok b) : a = b ∧ skipGap text = [] := by
  rw [finish] at h
  split at h
  · rename_i htext
    exact ⟨Except.ok.inj h, htext⟩
  · cases h

end Daybook.Json
