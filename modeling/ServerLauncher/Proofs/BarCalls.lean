import ServerLauncher.Progress.Bar

/-!
A bar over all that is asked of it. Taking away what is shown leaves behind that there was a
fraction. So steps stand on the terminal until they are taken away for the first time, and never
again; and from the first positive increment on a position is given whenever something is shown,
also a spinner.
-/

namespace ServerLauncher.Progress.Bar

variable {α : Type} [Gauge α]

inductive Call (α : Type) where
  | report (increment : α)
  | finish
  | abandon
  | clear
  deriving DecidableEq, Repr

def answer (b : Bar α) : Call α → Bar α
  | .report increment => b.report increment
  | .finish => b.close
  | .abandon => b.close
  | .clear => b.close

def after (cs : List (Call α)) : Bar α :=
  cs.foldl answer start

/-- The increments that were reported, those before the last call that took something away and
those since then. -/
structure Record (α : Type) where
  earlier : List α
  latest : List α
  deriving DecidableEq, Repr

namespace Record

def add (r : Record α) : Call α → Record α
  | .report increment => ⟨r.earlier, r.latest ++ [increment]⟩
  | .finish => ⟨r.earlier ++ r.latest, []⟩
  | .abandon => ⟨r.earlier ++ r.latest, []⟩
  | .clear => ⟨r.earlier ++ r.latest, []⟩

def ofCalls (cs : List (Call α)) : Record α :=
  cs.foldl add ⟨[], []⟩

end Record

/-- One of the increments is positive. -/
def Rises (xs : List α) : Prop := ∃ x ∈ xs, Gauge.isPositive x = true

theorem not_rises_nil : ¬Rises ([] : List α) := by
  rintro ⟨x, hx, -⟩
  cases hx

theorem rises_append {xs ys : List α} : Rises (xs ++ ys) ↔ Rises xs ∨ Rises ys := by
  simp only [Rises, List.mem_append, or_and_right, exists_or]

theorem rises_singleton {x : α} : Rises [x] ↔ Gauge.isPositive x = true := by
  simp only [Rises, List.mem_singleton, exists_eq_left]

def shape? (b : Bar α) : Option Shape :=
  b.display.map Display.shape

/-- What a bar has kept of the reports. -/
structure Shows (b : Bar α) (r : Record α) : Prop where
  determinate : b.determinate = true ↔ Rises (r.earlier ++ r.latest)
  hidden : b.display = none ↔ r.latest = []
  steps : b.shape? = some .steps ↔ Rises r.latest ∧ ¬Rises r.earlier

namespace Shows

variable {b : Bar α} {r : Record α}

theorem start : Shows (.start : Bar α) ⟨[], []⟩ where
  determinate := iff_of_false Bool.false_ne_true not_rises_nil
  hidden := iff_of_true rfl rfl
  steps := iff_of_false (by simp [shape?, Bar.start]) fun h => not_rises_nil h.1

theorem report (h : Shows b r) (x : α) :
    Shows (b.report x) ⟨r.earlier, r.latest ++ [x]⟩ where
  determinate := by
    have hdeterminate := h.determinate
    rw [rises_append] at hdeterminate
    rw [rises_append, rises_append, rises_singleton, ← or_assoc, ← hdeterminate]
    cases hb : b.determinate <;> simp [Bar.report, hb]
  hidden := iff_of_false (by simp [Bar.report]) (by simp)
  steps := by
    have hdeterminate := h.determinate
    rw [rises_append] at hdeterminate
    have hsteps := h.steps
    rw [rises_append, rises_singleton]
    by_cases hbegins : (Gauge.isPositive x && !b.determinate) = true
    · -- The first positive increment of all.
      obtain ⟨hx, hb⟩ : Gauge.isPositive x = true ∧ b.determinate = false := by
        simpa using hbegins
      have hnone : ¬(Rises r.earlier ∨ Rises r.latest) := fun hrises => by
        rw [hdeterminate.2 hrises] at hb
        cases hb
      refine iff_of_true ?_ ⟨Or.inr hx, fun he => hnone (Or.inl he)⟩
      simp [Bar.report, shape?, hbegins]
    · -- A positive increment now is not the first one.
      have hx : Gauge.isPositive x = true → Rises r.earlier ∨ Rises r.latest := fun hx =>
        hdeterminate.1 (by simpa [hx] using hbegins)
      cases hd : b.display with
      | none =>
        have hlatest := h.hidden.1 hd
        rw [hlatest] at hx ⊢
        refine iff_of_false (by simp [Bar.report, shape?, hbegins, hd]) ?_
        rintro ⟨hrises | hrises, hearlier⟩
        · exact not_rises_nil hrises
        · exact (hx hrises).elim hearlier not_rises_nil
      | some d =>
        have hkept : (b.report x).shape? = b.shape? := by
          simp [Bar.report, shape?, hbegins, hd]
        rw [hkept, hsteps]
        constructor
        · exact fun ⟨hrises, hearlier⟩ => ⟨Or.inl hrises, hearlier⟩
        · rintro ⟨hrises | hrises, hearlier⟩
          · exact ⟨hrises, hearlier⟩
          · exact ⟨(hx hrises).resolve_left hearlier, hearlier⟩

theorem close (h : Shows b r) : Shows b.close ⟨r.earlier ++ r.latest, []⟩ where
  determinate := by
    rw [List.append_nil]
    exact h.determinate
  hidden := iff_of_true rfl rfl
  steps := iff_of_false (by simp [shape?, Bar.close]) fun hrises => not_rises_nil hrises.1

theorem answer (h : Shows b r) (c : Call α) : Shows (b.answer c) (r.add c) := by
  cases c with
  | report x => exact h.report x
  | finish => exact h.close
  | abandon => exact h.close
  | clear => exact h.close

theorem after (cs : List (Call α)) : Shows (Bar.after cs) (Record.ofCalls cs) := by
  have hrun : ∀ (cs : List (Call α)) (b : Bar α) (r : Record α), Shows b r →
      Shows (cs.foldl Bar.answer b) (cs.foldl Record.add r) := by
    intro cs
    induction cs with
    | nil => exact fun b r h => h
    | cons c cs ih => exact fun b r h => ih _ _ (h.answer c)
  exact hrun cs _ _ start

theorem position_isSome_iff (h : Shows b r) :
    b.position.isSome = true ↔ r.latest ≠ [] ∧ Rises (r.earlier ++ r.latest) := by
  rw [← h.determinate, ne_eq, ← h.hidden, position]
  cases b.determinate <;> cases b.display <;> simp

theorem spinner (h : Shows b r) (hlatest : r.latest ≠ []) (hrises : ¬Rises r.latest) :
    b.shape? = some .spinner := by
  have hdisplay : b.display ≠ none := fun hnone => hlatest (h.hidden.1 hnone)
  have hsteps : b.shape? ≠ some .steps := fun heq => hrises (h.steps.1 heq).1
  obtain ⟨d, hd⟩ := Option.ne_none_iff_exists'.1 hdisplay
  rw [shape?, hd, Option.map_some] at hsteps ⊢
  cases hshape : d.shape with
  | spinner => rfl
  | steps => exact absurd (congrArg some hshape) hsteps

end Shows

theorem rises_float {xs : List Float} : Rises xs ↔ ∃ x ∈ xs, 0 < x :=
  exists_congr fun _ => and_congr_right fun _ => decide_eq_true_iff

/-- Whatever a bar is asked for, in any order, a position is given exactly if there was a report
since something was last taken away, and some increment ever was positive. So the increments since
then decide on it only if there are none, if one of them is positive, or if there never was a
positive one before. Nothing is shown exactly if there was no report since then; steps are shown
exactly if one of the increments since then is positive and none before; without a positive one
since then a spinner is shown. -/
theorem position_after_calls (cs : List (Call Float)) :
    let b := after cs
    let r := Record.ofCalls cs
    (b.position.isSome = true ↔ r.latest ≠ [] ∧ ∃ x ∈ r.earlier ++ r.latest, 0 < x) ∧
      ((b.position.isSome = true ↔ ∃ x ∈ r.latest, 0 < x) ↔
        r.latest = [] ∨ (∃ x ∈ r.latest, 0 < x) ∨ ¬∃ x ∈ r.earlier, 0 < x) ∧
      (b.display = none ↔ r.latest = []) ∧
      (b.shape? = some .steps ↔ (∃ x ∈ r.latest, 0 < x) ∧ ¬∃ x ∈ r.earlier, 0 < x) ∧
      (r.latest ≠ [] → ¬(∃ x ∈ r.latest, 0 < x) → b.shape? = some .spinner) := by
  intro b r
  have hshows : Shows b r := .after cs
  simp only [← rises_float]
  refine ⟨hshows.position_isSome_iff, ?_, hshows.hidden, hshows.steps, hshows.spinner⟩
  rw [hshows.position_isSome_iff, rises_append]
  by_cases hlatest : r.latest = []
  · rw [hlatest]
    exact iff_of_true (iff_of_false (fun h => h.1 rfl) not_rises_nil) (Or.inl rfl)
  · by_cases hrises : Rises r.latest
    · exact iff_of_true (iff_of_true ⟨hlatest, Or.inr hrises⟩ hrises) (Or.inr (Or.inl hrises))
    · simp only [hlatest, hrises, ne_eq, not_false_eq_true, true_and, or_false, iff_false,
        false_or]

/-- A half, done, and a second transfer that has only got its title: a spinner has a position. -/
theorem spinner_with_position :
    ¬∀ cs : List (Call Float), (after cs).position.isSome = true ↔
      ∃ x ∈ (Record.ofCalls cs).latest, 0 < x := by
  intro h
  have hposition : (after [.report 0.5, .finish, .report 0]).position.isSome = true := by
    decide +kernel
  obtain ⟨x, hx, hpos⟩ := (h _).1 hposition
  rw [List.mem_singleton.1 hx] at hpos
  exact absurd hpos (by decide +kernel)

end ServerLauncher.Progress.Bar
