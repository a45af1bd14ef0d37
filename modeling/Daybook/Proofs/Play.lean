/-!
Machines: a machine answers an event and goes on to another state. What a machine answers to a run of
events is put together from what it answers to parts of the run, and one machine goes by another when
each of its steps does.
-/

namespace Daybook

/-- The answers of a machine to some events, one after the other, and the state in which it is left. -/
def play {σ ε α : Type} (step : σ → ε → α × σ) : σ → List ε → List α × σ
  | s, [] => ([], s)
  | s, event :: events =>
      ((step s event).1 :: (play step (step s event).2 events).1,
        (play step (step s event).2 events).2)

variable {σ τ ε α β : Type}

theorem play_append (step : σ → ε → α × σ) (s : σ) (earlier later : List ε) :
    play step s (earlier ++ later) =
      ((play step s earlier).1 ++ (play step (play step s earlier).2 later).1,
        (play step (play step s earlier).2 later).2) := by
  induction earlier generalizing s with
  | nil => rfl
  | cons event earlier ih =>
      rw [List.cons_append, play, ih]
      rfl

/-- One machine goes by another when each of its steps does. -/
theorem play_of_step {step : σ → ε → α × σ} {step' : τ → ε → β × τ} {allowed : ε → Prop}
    {R : σ → τ → Prop} {f : α → β}
    (hstep : ∀ {s t event}, allowed event → R s t →
      f (step s event).1 = (step' t event).1 ∧ R (step s event).2 (step' t event).2)
    {s : σ} {t : τ} (h : R s t) {events : List ε} (hevents : ∀ event ∈ events, allowed event) :
    (play step s events).1.map f = (play step' t events).1 ∧
      R (play step s events).2 (play step' t events).2 := by
  induction events generalizing s t with
  | nil => exact ⟨rfl, h⟩
  | cons event events ih =>
      obtain ⟨hanswer, hnext⟩ := hstep (hevents event List.mem_cons_self) h
      obtain ⟨hanswers, hlast⟩ := ih hnext fun other hother =>
        hevents other (List.mem_cons_of_mem _ hother)
      refine ⟨?_, hlast⟩
      rw [play, play, List.map_cons, hanswer, hanswers]

theorem play_keeps {step : σ → ε → α × σ} {step' : τ → ε → β × τ} {R : σ → τ → Prop}
    (hstep : ∀ {s t} event, R s t → R (step s event).2 (step' t event).2) {s : σ} {t : τ}
    (h : R s t) (events : List ε) : R (play step s events).2 (play step' t events).2 := by
  induction events generalizing s t with
  | nil => exact h
  | cons event events ih => exact ih (hstep event h)

/-- What is left out of a run is not missed: if the events that are kept are answered alike and keep two
states alike, and the others leave a state as like to another one as it was, then the run without the
others answers alike. -/
theorem play_filter {step : σ → ε → α × σ} {keep : ε → Bool} {R : σ → σ → Prop}
    (hkeep : ∀ {s t event}, keep event = true → R s t →
      (step s event).1 = (step t event).1 ∧ R (step s event).2 (step t event).2)
    (hdrop : ∀ {s t event}, keep event = false → R s t → R (step s event).2 t)
    {s t : σ} (h : R s t) (events : List ε) :
    ((events.zip (play step s events).1).filter fun pair => keep pair.1).map Prod.snd =
        (play step t (events.filter keep)).1 ∧
      R (play step s events).2 (play step t (events.filter keep)).2 := by
  induction events generalizing s t with
  | nil => exact ⟨rfl, h⟩
  | cons event events ih =>
      rw [play, List.zip_cons_cons]
      cases hevent : keep event with
      | true =>
          obtain ⟨hanswer, hnext⟩ := hkeep hevent h
          obtain ⟨hanswers, hlast⟩ := ih hnext
          rw [List.filter_cons_of_pos (p := fun pair : ε × α => keep pair.1) hevent,
            List.filter_cons_of_pos hevent, play, List.map_cons, hanswer, hanswers]
          exact ⟨rfl, hlast⟩
      | false =>
          have hskip : ¬keep event = true := Bool.eq_false_iff.mp hevent
          rw [List.filter_cons_of_neg (p := fun pair : ε × α => keep pair.1) hskip,
            List.filter_cons_of_neg hskip]
          exact ih (hdrop hevent h)

theorem play_map {γ : Type} (step : σ → ε → α × σ) (f : γ → ε) (s : σ) (events : List γ) :
    play step s (events.map f) = play (fun s event => step s (f event)) s events := by
  induction events generalizing s with
  | nil => rfl
  | cons event events ih => rw [List.map_cons, play, play, ih]

theorem length_play (step : σ → ε → α × σ) (s : σ) (events : List ε) :
    (play step s events).1.length = events.length := by
  induction events generalizing s with
  | nil => rfl
  | cons event events ih => rw [play, List.length_cons, List.length_cons, ih]

theorem play_take (step : σ → ε → α × σ) (s : σ) (events : List ε) (k : Nat) :
    (play step s (events.take k)).1 = (play step s events).1.take k := by
  induction events generalizing s k with
  | nil => simp [play]
  | cons event events ih =>
      cases k with
      | zero => rfl
      | succ k => rw [List.take_succ_cons, play, play, ih, List.take_succ_cons]

theorem getElem?_play (step : σ → ε → α × σ) (s : σ) {events : List ε} {k : Nat} {event : ε}
    (h : events[k]? = some event) :
    (play step s events).1[k]? = some (step (play step s (events.take k)).2 event).1 := by
  induction events generalizing s k with
  | nil => cases h
  | cons first events ih =>
      cases k with
      | zero =>
          obtain rfl : first = event := Option.some.inj h
          rfl
      | succ k =>
          rw [play, List.getElem?_cons_succ, ih _ h, List.take_succ_cons]
          rfl

end Daybook
