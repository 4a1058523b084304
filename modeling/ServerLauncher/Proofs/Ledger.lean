import ServerLauncher.Progress.Tracker

/-!
The books of a tracker. The increments of its events add up to the units that it has reported, which
are never more than the whole. With a known length every event raises the percentage, so there are
at most a hundred; the end of the transfer reports what is missing. With an unknown length no event
has an increment. What each notice to a tracker preserves is preserved by all of them.
-/

namespace ServerLauncher.Progress

def incrementSum : List Event → Nat
  | [] => 0
  | e :: es => e.increment + incrementSum es

theorem incrementSum_append (as bs : List Event) :
    incrementSum (as ++ bs) = incrementSum as + incrementSum bs := by
  induction as with
  | nil => exact (Nat.zero_add _).symm
  | cons e as ih =>
    rw [List.cons_append, incrementSum, incrementSum, ih]
    omega

theorem incrementSum_of_zero {es : List Event} (h : ∀ e ∈ es, e.increment = 0) :
    incrementSum es = 0 := by
  induction es with
  | nil => rfl
  | cons e es ih =>
    obtain ⟨he, hes⟩ := List.forall_mem_cons.1 h
    rw [incrementSum, he, ih hes]

theorem incrementSum_le_of_prefix {as bs : List Event} (h : as <+: bs) :
    incrementSum as ≤ incrementSum bs := by
  obtain ⟨rest, rfl⟩ := h
  rw [incrementSum_append]
  omega

namespace Tracker

theorem unitsFor_le (received total : Nat) : unitsFor received total ≤ resolution := by
  unfold unitsFor
  split
  · exact Nat.le_refl _
  · exact Nat.min_le_right _ _

theorem percentOf_lt {units : Nat} (h : units < resolution) : percentOf units < 100 := by
  unfold percentOf resolution at *
  omega

/-- With a known length a count leads to an event when it raises both the percentage and the units,
and else to nothing. -/
theorem advance_of_known {t : Tracker} {total : Nat} (h : t.total = some total)
    (now received : Nat) :
    t.advance now received =
      if t.percent < percentOf (unitsFor received total) ∧ t.units < unitsFor received total then
        ((t.report (unitsFor received total) (percentOf (unitsFor received total))).1,
          some (t.report (unitsFor received total) (percentOf (unitsFor received total))).2)
      else (t, none) := by
  simp only [advance, h]
  by_cases hmore : t.percent < percentOf (unitsFor received total) ∧
      t.units < unitsFor received total
  · rw [if_pos hmore, if_neg]
    omega
  · rw [if_neg hmore, if_pos]
    omega

/-- With an unknown length a count leads to an event when one is due. -/
theorem advance_of_unknown {t : Tracker} (h : t.total = none) (now received : Nat) :
    t.advance now received =
      if t.isDue now then ({ t with lastShown := some now }, some ⟨Size.text received, 0⟩)
      else (t, none) := by
  rw [advance, h]

/-- The events are those of the tracker so far. -/
structure Accounts (t : Tracker) (es : List Event) : Prop where
  percent : t.percent = percentOf t.units
  units_le : t.units ≤ resolution
  sum_eq : incrementSum es = t.units
  positive : t.total.isSome = true → ∀ e ∈ es, 0 < e.increment
  zero : t.total = none → ∀ e ∈ es, e.increment = 0
  length_le : t.total.isSome = true → es.length ≤ t.percent

namespace Accounts

variable {t : Tracker} {es : List Event}

theorem start (total : Option Nat) : Accounts (.start total) [] where
  percent := by simp [Tracker.start, percentOf]
  units_le := Nat.zero_le _
  sum_eq := rfl
  positive := by simp
  zero := by simp
  length_le := by simp [Tracker.start]

theorem note (h : Accounts t es) (hnone : t.total = none) (text : String) (shown : Option Nat) :
    Accounts { t with lastShown := shown } (es ++ [⟨text, 0⟩]) where
  percent := h.percent
  units_le := h.units_le
  sum_eq := by
    rw [incrementSum_append, h.sum_eq]
    rfl
  positive hsome := by simp [hnone] at hsome
  zero _ e he := by
    rcases List.mem_append.1 he with he | he
    · exact h.zero hnone e he
    · rw [List.mem_singleton.1 he]
  length_le hsome := by simp [hnone] at hsome

theorem report (h : Accounts t es) (hsome : t.total.isSome = true) {units : Nat}
    (hle : units ≤ resolution) (hunits : t.units < units) (hpercent : t.percent < percentOf units) :
    Accounts (t.report units (percentOf units)).1
      (es ++ [(t.report units (percentOf units)).2]) where
  percent := rfl
  units_le := hle
  sum_eq := by
    rw [incrementSum_append, h.sum_eq]
    simp only [Tracker.report, incrementSum]
    omega
  positive _ e he := by
    rcases List.mem_append.1 he with he | he
    · exact h.positive hsome e he
    · rw [List.mem_singleton.1 he]
      exact Nat.sub_pos_of_lt hunits
  zero hnone := by
    have : t.total = none := hnone
    simp [this] at hsome
  length_le _ := by
    have := h.length_le hsome
    rw [List.length_append, List.length_singleton]
    exact Nat.le_trans (Nat.succ_le_succ this) hpercent

theorem percent_le (h : Accounts t es) : t.percent ≤ 100 := by
  have hle := h.units_le
  rw [h.percent]
  unfold percentOf resolution at *
  omega

theorem advance (h : Accounts t es) (now received : Nat) :
    Accounts (t.advance now received).1 (es ++ (t.advance now received).2.toList) := by
  cases htotal : t.total with
  | some total =>
    rw [advance_of_known htotal]
    split
    · rename_i hmore
      exact h.report (by rw [htotal]; rfl) (unitsFor_le received total) hmore.2 hmore.1
    · simpa using h
  | none =>
    rw [advance_of_unknown htotal]
    split
    · exact h.note htotal (Size.text received) (some now)
    · simpa using h

theorem finish (h : Accounts t es) (received : Nat) :
    Accounts (t.finish received).1 (es ++ (t.finish received).2.toList) := by
  unfold Tracker.finish
  split
  · rename_i n hsome
    split
    · rename_i hless
      have hpercent : t.percent < percentOf resolution := by
        rw [h.percent]
        exact percentOf_lt hless
      exact h.report (by simp [hsome]) (Nat.le_refl _) hless hpercent
    · simpa using h
  · rename_i hnone
    exact h.note hnone _ _

end Accounts

variable {t : Tracker} {es : List Event}

theorem advance_total (t : Tracker) (now received : Nat) :
    (t.advance now received).1.total = t.total := by
  unfold advance
  split
  · dsimp only
    split <;> rfl
  · split <;> rfl

theorem finish_total (t : Tracker) (received : Nat) : (t.finish received).1.total = t.total := by
  unfold finish
  split
  · split <;> rfl
  · rfl

theorem finish_units (h : Accounts t es) (hsome : t.total.isSome = true) (received : Nat) :
    (t.finish received).1.units = resolution := by
  obtain ⟨n, hn⟩ := Option.isSome_iff_exists.1 hsome
  have hle := h.units_le
  unfold finish
  rw [hn]
  dsimp only
  split
  · rfl
  · exact Nat.le_antisymm hle (Nat.le_of_not_lt ‹_›)

theorem finish_event (hnone : t.total = none) (received : Nat) :
    (t.finish received).2 = some ⟨Size.text received ++ " (complete)", 0⟩ := by
  unfold finish
  rw [hnone]

/-- What a tracker is told: a count of bytes at some time, or the count at the end. -/
inductive Notice where
  | advance (now : Nat) (received : UInt64)
  | finish (received : UInt64)
  deriving DecidableEq, Repr

def hear (t : Tracker) : Notice → Tracker × Option Event
  | .advance now received => t.advance now received.toNat
  | .finish received => t.finish received.toNat

/-- The tracker after all notices, and the events. -/
def run (t : Tracker) : List Notice → Tracker × List Event
  | [] => (t, [])
  | n :: ns => (((t.hear n).1.run ns).1, (t.hear n).2.toList ++ ((t.hear n).1.run ns).2)

theorem run_append (t : Tracker) (ms ns : List Notice) :
    t.run (ms ++ ns) = (((t.run ms).1.run ns).1, (t.run ms).2 ++ ((t.run ms).1.run ns).2) := by
  induction ms generalizing t with
  | nil => rfl
  | cons m ms ih => simp only [List.cons_append, run, ih, List.append_assoc]

theorem run_singleton (t : Tracker) (n : Notice) :
    t.run [n] = ((t.hear n).1, (t.hear n).2.toList) := by
  simp only [run, List.append_nil]

/-- What every notice preserves holds after all of them. -/
theorem run_preserves {P : Tracker → List Event → Prop}
    (step : ∀ t es n, P t es → P (t.hear n).1 (es ++ (t.hear n).2.toList)) (h : P t es)
    (ns : List Notice) : P (t.run ns).1 (es ++ (t.run ns).2) := by
  induction ns generalizing t es with
  | nil => simpa only [run, List.append_nil] using h
  | cons n ns ih =>
    rw [run, ← List.append_assoc]
    exact ih (step t es n h)

theorem hear_total (t : Tracker) (n : Notice) : (t.hear n).1.total = t.total := by
  cases n with
  | advance now received => exact t.advance_total now received.toNat
  | finish received => exact t.finish_total received.toNat

theorem Accounts.hear (h : Accounts t es) (n : Notice) :
    Accounts (t.hear n).1 (es ++ (t.hear n).2.toList) := by
  cases n with
  | advance now received => exact h.advance now received.toNat
  | finish received => exact h.finish received.toNat

end Tracker

end ServerLauncher.Progress
