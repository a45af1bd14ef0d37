import Daybook.Column
import Daybook.Proofs.Calendar.Reading

namespace Daybook

theorem readTime_of_some {text : List Char} {t : Instant}
    (h : Instant.ofStoredText? text = some t) (column : String) :
    readTime (String.ofList text) column = .ok t := by
  rw [readTime, String.toList_ofList, h]

theorem readTime_of_none {text : List Char} (h : Instant.ofStoredText? text = none)
    (column : String) :
    readTime (String.ofList text) column =
      .error (.database (.unreadable (.timestamp (String.ofList text) column))) := by
  rw [readTime, String.toList_ofList, h]

/-- What is read where a time was written as a text: the time when its year is plain, and otherwise
that the text is no time. -/
def Instant.readBack (t : Instant) (text : List Char) (column : String) : Except Error Instant :=
  if t.HasPlainYear then .ok t
  else .error (.database (.unreadable (.timestamp (String.ofList text) column)))

theorem Instant.readBack_of_plain {t : Instant} (h : t.HasPlainYear) (text : List Char)
    (column : String) : t.readBack text column = .ok t := if_pos h

theorem readTime_storedText (t : Instant) (column : String) :
    readTime (String.ofList t.storedText) column = t.readBack t.storedText column := by
  unfold Instant.readBack
  split
  · rename_i h
    exact readTime_of_some (Instant.ofStoredText?_storedText h) column
  · rename_i h
    exact readTime_of_none (Instant.ofStoredText?_storedText_eq_none h) column

theorem readTime_sortableText (t : Instant) (column : String) :
    readTime (String.ofList t.sortableText) column = t.readBack t.sortableText column := by
  unfold Instant.readBack
  split
  · rename_i h
    exact readTime_of_some (Instant.ofStoredText?_sortableText h) column
  · rename_i h
    exact readTime_of_none (Instant.ofStoredText?_sortableText_eq_none h) column

theorem mapM_map_eq_pure {μ : Type → Type} [Monad μ] [LawfulMonad μ] {α β : Type} {f : α → β}
    {read : β → μ α} {records : List α} (h : ∀ a ∈ records, read (f a) = pure a) :
    (records.map f).mapM read = pure records := by
  induction records with
  | nil => rfl
  | cons a records ih =>
      rw [List.map_cons, List.mapM_cons, h a List.mem_cons_self,
        ih fun other hother => h other (List.mem_cons_of_mem _ hother), pure_bind, pure_bind]

end Daybook
