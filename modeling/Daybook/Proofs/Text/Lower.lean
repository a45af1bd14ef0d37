import Daybook.Text.Lower
import Mathlib.Data.List.Infix

/-!
Lower case and the parts of a text. The lower-case form of a text is put together from what becomes of
its parts where they stand. A part becomes there what it becomes by itself, unless it is cut out of a
word at a capital sigma, whose form depends on whether the word goes on.
-/

namespace Daybook.Case

theorem occursIn_iff {part text : List Char} : occursIn part text = true ↔ part <:+: text := by
  induction text with
  | nil => rw [occursIn, List.isEmpty_iff, List.infix_nil]
  | cons c text ih =>
      rw [occursIn, Bool.or_eq_true, ih, List.isPrefixOf_iff_prefix, List.infix_cons_iff]

/-- The lower-case form of a text between what stands before it, the nearest first, and what stands
after it. -/
def lowerAmid : (before text after : List Char) → List Char
  | _, [], _ => []
  | before, c :: text, after =>
      lowerBetween before c (text ++ after) ++ lowerAmid (c :: before) text after

theorem lowerFrom_eq (before text done : List Char) :
    lowerFrom before text done = done.reverse ++ lowerAmid before text [] := by
  induction text generalizing before done with
  | nil => simp [lowerFrom, lowerAmid]
  | cons c text ih => simp [lowerFrom, lowerAmid, ih]

theorem lower_eq (text : List Char) : lower text = lowerAmid [] text [] := lowerFrom_eq [] text []

theorem lowerAmid_append (before first second after : List Char) :
    lowerAmid before (first ++ second) after =
      lowerAmid before first (second ++ after) ++
        lowerAmid (first.reverse ++ before) second after := by
  induction first generalizing before with
  | nil => rfl
  | cons c first ih => simp [lowerAmid, ih]

theorem lower_append_append (before text after : List Char) :
    lower (before ++ text ++ after) =
      lowerAmid [] before (text ++ after) ++ lowerAmid before.reverse text after ++
        lowerAmid (text.reverse ++ before.reverse) after [] := by
  rw [lower_eq, lowerAmid_append, lowerAmid_append]
  simp

theorem reachesCased_append (text more : List Char) :
    reachesCased (text ++ more) =
      if text.all isIgnorable then reachesCased more else reachesCased text := by
  induction text with
  | nil => rfl
  | cons c text ih =>
      unfold reachesCased at ih ⊢
      rw [List.cons_append, List.dropWhile_cons, List.dropWhile_cons, List.all_cons]
      cases isIgnorable c with
      | true => simpa using ih
      | false => rfl

theorem reachesCased_of_all {text : List Char} (h : text.all isIgnorable = true) :
    reachesCased text = false := by
  have hempty := reachesCased_append text []
  rwa [List.append_nil, if_pos h] at hempty

/-- A capital sigma between two texts, of which the first is nearest first, takes its final form. -/
def endsWord (before after : List Char) : Bool := reachesCased before && !reachesCased after

theorem lowerBetween_sigma (before after : List Char) :
    lowerBetween before 'Σ' after = if endsWord before after then ['ς'] else ['σ'] := rfl

theorem lowerBetween_of_ne {c : Char} (h : c ≠ 'Σ') (before after : List Char) :
    lowerBetween before c after = lowerBetween [] c [] := by
  rw [lowerBetween, lowerBetween, if_neg h, if_neg h]

theorem length_lowerBetween (before : List Char) (c : Char) (after : List Char) :
    (lowerBetween before c after).length = (lowerBetween [] c []).length := by
  by_cases h : c = 'Σ'
  · subst h
    rw [lowerBetween_sigma, lowerBetween_sigma]
    split <;> split <;> rfl
  · rw [lowerBetween_of_ne h]

theorem length_lowerAmid (before text after : List Char) :
    (lowerAmid before text after).length = (lower text).length := by
  suffices h : ∀ before', (lowerAmid before text after).length =
      (lowerAmid before' text []).length by
    rw [h [], lower_eq]
  induction text generalizing before with
  | nil => exact fun _ => rfl
  | cons c text ih =>
      intro before'
      rw [lowerAmid, lowerAmid, List.length_append, List.length_append, length_lowerBetween,
        length_lowerBetween before', ih (c :: before) (c :: before')]

theorem lowerBetween_sigma_inj {before after before' after' : List Char} :
    lowerBetween before 'Σ' after = lowerBetween before' 'Σ' after' ↔
      endsWord before after = endsWord before' after' := by
  rw [lowerBetween_sigma, lowerBetween_sigma]
  cases endsWord before after <;> cases endsWord before' after' <;> simp

/-- A text becomes the same in two places exactly if each of its capital sigmas takes the same form. -/
theorem lowerAmid_eq_iff {before before' text after after' : List Char} :
    lowerAmid before text after = lowerAmid before' text after' ↔
      ∀ first second, text = first ++ 'Σ' :: second →
        endsWord (first.reverse ++ before) (second ++ after) =
          endsWord (first.reverse ++ before') (second ++ after') := by
  induction text generalizing before before' with
  | nil => simp [lowerAmid]
  | cons c text ih =>
      have hsplit : lowerAmid before (c :: text) after = lowerAmid before' (c :: text) after' ↔
          lowerBetween before c (text ++ after) = lowerBetween before' c (text ++ after') ∧
            lowerAmid (c :: before) text after = lowerAmid (c :: before') text after' := by
        rw [lowerAmid, lowerAmid]
        constructor
        · intro h
          exact List.append_inj h (by rw [length_lowerBetween, length_lowerBetween before'])
        · rintro ⟨hfirst, hrest⟩
          rw [hfirst, hrest]
      rw [hsplit, ih]
      constructor
      · rintro ⟨hfirst, hrest⟩ first second htext
        cases first with
        | nil =>
            obtain ⟨rfl, rfl⟩ := List.cons.inj htext
            exact lowerBetween_sigma_inj.mp hfirst
        | cons d first =>
            obtain ⟨rfl, hrest'⟩ := List.cons.inj htext
            simpa using hrest first second hrest'
      · intro h
        refine ⟨?_, fun first second htext => ?_⟩
        · by_cases hc : c = 'Σ'
          · subst hc
            exact lowerBetween_sigma_inj.mpr (h [] text rfl)
          · rw [lowerBetween_of_ne hc, lowerBetween_of_ne hc before']
        · simpa using h (c :: first) second (by rw [htext]; rfl)

/-- A text is cut out of a word at a capital sigma: at its end, while the word goes on after it, or at
its beginning, where the sigma ends a word that has begun before. Characters that a word's case passes
over may stand between the sigma and the cut. What stands before the text is given nearest first. -/
inductive CutsSigma (before text after : List Char) : Prop
  | atEnd (first second : List Char) (htext : text = first ++ 'Σ' :: second)
      (hsecond : second.all isIgnorable = true) (hfirst : reachesCased first.reverse = true)
      (hafter : reachesCased after = true) : CutsSigma before text after
  | atStart (first second : List Char) (htext : text = first ++ 'Σ' :: second)
      (hfirst : first.all isIgnorable = true) (hbefore : reachesCased before = true)
      (hend : reachesCased (second ++ after) = false) : CutsSigma before text after

theorem endsWord_append_ne_iff {first before second after : List Char} :
    endsWord (first ++ before) (second ++ after) ≠ endsWord first second ↔
      (second.all isIgnorable = true ∧ reachesCased first = true ∧ reachesCased after = true) ∨
        (first.all isIgnorable = true ∧ reachesCased before = true ∧
          reachesCased (second ++ after) = false) := by
  unfold endsWord
  rw [reachesCased_append first]
  cases hfirst : first.all isIgnorable with
  | true =>
      rw [reachesCased_of_all hfirst]
      simp
  | false =>
      rw [reachesCased_append second]
      cases hsecond : second.all isIgnorable with
      | true =>
          rw [reachesCased_of_all hsecond]
          cases reachesCased first <;> simp
      | false => simp

/-- A part of a text becomes what it becomes by itself exactly if it is not cut out of a word at a
capital sigma. -/
theorem lowerAmid_eq_lower_iff {before text after : List Char} :
    lowerAmid before text after = lower text ↔ ¬CutsSigma before text after := by
  rw [lower_eq, lowerAmid_eq_iff]
  simp only [List.append_nil]
  constructor
  · rintro h (⟨first, second, htext, hsecond, hfirst, hafter⟩ |
      ⟨first, second, htext, hfirst, hbefore, hend⟩)
    · exact endsWord_append_ne_iff.mpr (.inl ⟨hsecond, hfirst, hafter⟩) (h first second htext)
    · rw [← List.all_reverse] at hfirst
      exact endsWord_append_ne_iff.mpr (.inr ⟨hfirst, hbefore, hend⟩) (h first second htext)
  · intro h first second htext
    by_contra hne
    rcases endsWord_append_ne_iff.mp hne with ⟨hsecond, hfirst, hafter⟩ | ⟨hfirst, hbefore, hend⟩
    · exact h (.atEnd first second htext hsecond hfirst hafter)
    · rw [List.all_reverse] at hfirst
      exact h (.atStart first second htext hfirst hbefore hend)

/-- A text can be found in a whole at its own place, by the lower-case forms of both, exactly if it is
not cut out of a word at a capital sigma. -/
theorem prefix_lower_iff (before text after : List Char) :
    lowerAmid [] before (text ++ after) ++ lower text <+: lower (before ++ text ++ after) ↔
      ¬CutsSigma before.reverse text after := by
  rw [lower_append_append, List.append_assoc, List.prefix_append_right_inj,
    ← lowerAmid_eq_lower_iff]
  constructor
  · intro h
    exact (List.prefix_of_prefix_length_le h (List.prefix_append _ _)
      (length_lowerAmid _ _ _).ge).eq_of_length (length_lowerAmid _ _ _).symm |>.symm
  · intro h
    rw [h]
    exact List.prefix_append _ _

end Daybook.Case
