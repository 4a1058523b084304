import ServerLauncher.Progress.Bar
import ServerLauncher.Proofs.Binary64
import ServerLauncher.Proofs.Percentages

/-!
The bar on the terminal follows a tracker. A bar of binary64 numbers does what a bar of units does,
since nothing that it reckons with needs more than 53 bits. The units of a bar that is told all
events of a tracker are those that the tracker has reported; there is no step before the first
event, and from then on it is the one nearest to the reported fraction.
-/

namespace ServerLauncher.Progress

open ServerLauncher.Binary64

theorem fits_of_le {n : ℕ} (h : n ≤ 2000 * resolution) : Fits n (-20) := by
  unfold resolution at h
  exact ⟨by omega, by decide, by decide⟩

theorem zero_eq_number : (0 : Float) = number 0 (-20) := by decide +kernel

theorem one_eq_number : (1 : Float) = number resolution (-20) := by decide +kernel

section Gauge

variable {u f : Units}

theorem toFloat_eq_number (h : u.count ≤ resolution) : u.toFloat = number u.count (-20) := by
  have hlt : u.count < 2 ^ 53 := (fits_of_le (by omega)).lt
  have hresolution : resolution.toFloat = number (2 ^ 20) 0 := toFloat_eq (by decide)
  rw [Units.toFloat, toFloat_eq hlt, hresolution]
  exact div_number (e := 0) (f := 0) ⟨hlt, by decide, by decide⟩
    ⟨by decide, by decide, by decide⟩ ⟨hlt, by decide, by decide⟩

theorem isPositive_toFloat (hu : u.count ≤ resolution) :
    Gauge.isPositive u.toFloat = Gauge.isPositive u := by
  change decide (0 < u.toFloat) = decide (0 < u.count)
  rw [toFloat_eq_number hu, zero_eq_number, decide_eq_decide]
  exact lt_number_iff (fits_of_le (Nat.zero_le _)) (fits_of_le (by omega))

theorem raise_toFloat (hf : f.count ≤ resolution) (hu : u.count ≤ resolution) :
    Gauge.raise f.toFloat u.toFloat = (Gauge.raise f u).toFloat := by
  have hsum : Fits (f.count + u.count) (-20) := fits_of_le (by omega)
  have hless : number (f.count + u.count) (-20) < number resolution (-20) ↔
      f.count + u.count < resolution := lt_number_iff hsum (fits_of_le (by omega))
  -- What is not positive counts as zero; a number of units is zero then.
  have hincrement : (if u.toFloat > 0 then u.toFloat else 0) = u.toFloat := by
    split
    · rfl
    · rename_i hzero
      have hnone : u.count = 0 := Nat.eq_zero_of_not_pos fun hpos =>
        hzero (of_decide_eq_true ((isPositive_toFloat hu).trans (decide_eq_true hpos)))
      rw [toFloat_eq_number hu, hnone, zero_eq_number]
  change (if f.toFloat + (if u.toFloat > 0 then u.toFloat else 0) < 1 then
    f.toFloat + (if u.toFloat > 0 then u.toFloat else 0) else 1) =
      Units.toFloat ⟨min (f.count + u.count) resolution⟩
  rw [hincrement, toFloat_eq_number hf, toFloat_eq_number hu, add_number hsum, one_eq_number,
    toFloat_eq_number (Nat.min_le_right _ _)]
  by_cases hsmall : f.count + u.count < resolution
  · rw [if_pos (hless.2 hsmall), Nat.min_eq_left (Nat.le_of_lt hsmall)]
  · rw [if_neg (mt hless.1 hsmall), Nat.min_eq_right (Nat.le_of_not_lt hsmall)]

theorem step_toFloat (hf : f.count ≤ resolution) : Gauge.step f.toFloat = Gauge.step f := by
  have hsteps : barSteps.toFloat = number barSteps 0 := toFloat_eq (by decide)
  have hhalves : f.count * barSteps + f.count * barSteps ≤ 2000 * resolution := by
    unfold barSteps
    omega
  have hsum : Fits (f.count * barSteps + f.count * barSteps) (-20) := fits_of_le hhalves
  have hproduct : number f.count (-20) * number barSteps 0 = number (f.count * barSteps) (-20) :=
    mul_number (fits_of_le (by omega)) ⟨by decide, by decide, by decide⟩
      (hsum.of_le (Nat.le_add_left _ _))
  have hword : (number (f.count * barSteps + f.count * barSteps) (-20)).toUInt64.toNat =
      (f.count * barSteps + f.count * barSteps) / 2 ^ 20 := toUInt64_number (k := 20) hsum
  change ((f.toFloat * barSteps.toFloat + f.toFloat * barSteps.toFloat).toUInt64.toNat + 1) / 2 =
    (2 * f.count * barSteps + resolution) / (2 * resolution)
  rw [toFloat_eq_number hf, hsteps, hproduct, add_number hsum, hword]
  unfold barSteps resolution
  omega

end Gauge

namespace Bar

def reportAll {α : Type} [Gauge α] (b : Bar α) (xs : List α) : Bar α :=
  xs.foldl report b

/-- The same bar, with a binary64 number for its fraction. -/
def toFloat (b : Bar Units) : Bar Float :=
  ⟨b.display, b.determinate, b.fraction.toFloat⟩

theorem report_toFloat {b : Bar Units} {u : Units} (hb : b.fraction.count ≤ resolution)
    (hu : u.count ≤ resolution) : b.toFloat.report u.toFloat = (b.report u).toFloat := by
  have hraised : (Gauge.raise b.fraction u).count ≤ resolution := Nat.min_le_right _ _
  simp only [report, toFloat, isPositive_toFloat hu, raise_toFloat hb hu, step_toFloat hraised]

theorem reportAll_toFloat {us : List Units} {b : Bar Units} (hb : b.fraction.count ≤ resolution)
    (hus : ∀ u ∈ us, u.count ≤ resolution) :
    b.toFloat.reportAll (us.map Units.toFloat) = (b.reportAll us).toFloat := by
  induction us generalizing b with
  | nil => rfl
  | cons u us ih =>
    have hu : u.count ≤ resolution := hus u List.mem_cons_self
    rw [List.map_cons, reportAll, List.foldl_cons, report_toFloat hb hu]
    exact ih (Nat.min_le_right _ _) fun v hv => hus v (List.mem_cons_of_mem u hv)

end Bar

section Step

variable {n m : ℕ}

theorem step_le (h : n ≤ resolution) : Gauge.step (⟨n⟩ : Units) ≤ barSteps := by
  change (2 * n * barSteps + resolution) / (2 * resolution) ≤ barSteps
  unfold barSteps resolution at *
  omega

theorem step_mono (h : n ≤ m) : Gauge.step (⟨n⟩ : Units) ≤ Gauge.step (⟨m⟩ : Units) :=
  Nat.div_le_div_right
    (Nat.add_le_add_right (Nat.mul_le_mul_right _ (Nat.mul_le_mul_left 2 h)) _)

theorem step_whole : Gauge.step (⟨resolution⟩ : Units) = 1000 := by decide

theorem step_near_percent (n : ℕ) :
    10 * Tracker.percentOf n ≤ Gauge.step (⟨n⟩ : Units) ∧
      Gauge.step (⟨n⟩ : Units) ≤ 10 * Tracker.percentOf n + 10 := by
  change 10 * Tracker.percentOf n ≤ (2 * n * barSteps + resolution) / (2 * resolution) ∧
    (2 * n * barSteps + resolution) / (2 * resolution) ≤ 10 * Tracker.percentOf n + 10
  unfold Tracker.percentOf barSteps resolution
  omega

theorem step_eq_floor (n : ℕ) :
    Gauge.step (⟨n⟩ : Units) = ⌊1000 * ((n : ℚ) / resolution) + 1 / 2⌋₊ := by
  have hquotient : 1000 * ((n : ℚ) / resolution) + 1 / 2 =
      ((2 * n * barSteps + resolution : ℕ) : ℚ) / (2 * resolution : ℕ) := by
    have hresolution : (resolution : ℚ) ≠ 0 := by decide
    unfold barSteps
    push_cast
    field_simp
  rw [hquotient, Rat.natFloor_natCast_div_natCast]
  rfl

end Step

/-- One of the events has a positive increment. -/
def Advances (es : List Event) : Prop := ∃ e ∈ es, 0 < e.increment

instance (es : List Event) : Decidable (Advances es) :=
  inferInstanceAs (Decidable (∃ e ∈ es, 0 < e.increment))

theorem not_advances_nil : ¬Advances [] := by
  rintro ⟨e, he, -⟩
  cases he

theorem advances_append {as bs : List Event} : Advances (as ++ bs) ↔ Advances as ∨ Advances bs := by
  simp only [Advances, List.mem_append, or_and_right, exists_or]

theorem increment_le_sum {e : Event} {es : List Event} (he : e ∈ es) :
    e.increment ≤ incrementSum es := by
  obtain ⟨before, after, rfl⟩ := List.append_of_mem he
  rw [incrementSum_append, incrementSum]
  omega

def Event.title (text : String) : Event := ⟨text, 0⟩

def Event.units (e : Event) : Units := ⟨e.increment⟩

/-- A bar that has been told exactly these events. -/
structure Follows (b : Bar Units) (es : List Event) : Prop where
  count_eq : b.fraction.count = incrementSum es
  determinate_iff : b.determinate = true ↔ Advances es
  mark_eq : b.determinate = true →
    b.display.map Display.mark = some (Gauge.step b.fraction)

namespace Follows

variable {b : Bar Units} {es : List Event}

theorem start : Follows .start [] where
  count_eq := rfl
  determinate_iff := iff_of_false Bool.false_ne_true not_advances_nil
  mark_eq h := nomatch h

theorem report (h : Follows b es) {e : Event} (hle : incrementSum (es ++ [e]) ≤ resolution) :
    Follows (b.report e.units) (es ++ [e]) where
  count_eq := by
    rw [incrementSum_append] at hle ⊢
    change min (b.fraction.count + e.increment) resolution = _
    rw [h.count_eq]
    exact Nat.min_eq_left hle
  determinate_iff := by
    have hone : Advances [e] ↔ Gauge.isPositive e.units = true := by
      simp only [Advances, List.mem_singleton, exists_eq_left]
      exact decide_eq_true_iff.symm
    rw [advances_append, ← h.determinate_iff, hone]
    cases hb : b.determinate <;> simp [Bar.report, hb]
  mark_eq hdeterminate := by
    have hmark : min (Gauge.step (Gauge.raise b.fraction e.units)) barSteps =
        Gauge.step (Gauge.raise b.fraction e.units) :=
      Nat.min_eq_left (step_le (Nat.min_le_right _ _))
    change (b.determinate || Gauge.isPositive e.units && !b.determinate) = true at hdeterminate
    simp only [Bar.report, hdeterminate, Option.map_some, if_true, hmark]

theorem position_eq (h : Follows b es) :
    b.position = if Advances es then some (Gauge.step (⟨incrementSum es⟩ : Units)) else none := by
  have hfraction : b.fraction = ⟨incrementSum es⟩ := congrArg Units.mk h.count_eq
  rw [Bar.position, ← hfraction]
  by_cases hadvances : Advances es
  · have hdeterminate := h.determinate_iff.2 hadvances
    rw [if_pos hdeterminate, if_pos hadvances, h.mark_eq hdeterminate]
  · rw [if_neg (mt h.determinate_iff.1 hadvances), if_neg hadvances]

theorem reportAll (h : Follows b es) {rest : List Event}
    (hle : incrementSum (es ++ rest) ≤ resolution) :
    Follows (b.reportAll (rest.map Event.units)) (es ++ rest) := by
  induction rest generalizing b es with
  | nil => rwa [List.append_nil]
  | cons e rest ih =>
    rw [List.append_cons] at hle ⊢
    have hfirst := incrementSum_le_of_prefix (List.prefix_append (es ++ [e]) rest)
    exact ih (h.report (hfirst.trans hle)) hle

end Follows

/-- A new bar that is told some titles and then these events. -/
def Bar.ofEvents (titles : List String) (es : List Event) : Bar Float :=
  start.reportAll ((titles.map Event.title ++ es).map Event.fraction)

section Titles

variable (titles : List String) {es : List Event}

theorem incrementSum_titles : incrementSum (titles.map Event.title ++ es) = incrementSum es := by
  induction titles with
  | nil => rfl
  | cons text titles ih =>
    rw [List.map_cons, List.cons_append, incrementSum, ih]
    exact Nat.zero_add _

theorem advances_titles : Advances (titles.map Event.title ++ es) ↔ Advances es := by
  have hnone : ¬Advances (titles.map Event.title) := by
    rintro ⟨e, he, hpos⟩
    obtain ⟨text, -, rfl⟩ := List.mem_map.1 he
    exact Nat.lt_irrefl 0 hpos
  rw [advances_append, or_iff_right hnone]

/-- The bar has the sum of all increments, and its step is the one nearest to that. -/
theorem ofEvents_eq (hle : incrementSum es ≤ resolution) :
    (Bar.ofEvents titles es).fraction = Units.toFloat ⟨incrementSum es⟩ ∧
      (Bar.ofEvents titles es).position =
        if Advances es then some (Gauge.step (⟨incrementSum es⟩ : Units)) else none := by
  have hsum : incrementSum (titles.map Event.title ++ es) = incrementSum es :=
    incrementSum_titles titles
  have hadvances : Advances (titles.map Event.title ++ es) ↔ Advances es := advances_titles titles
  unfold Bar.ofEvents
  generalize titles.map Event.title ++ es = told at hsum hadvances
  rw [← hsum] at hle
  have hfollows : Follows (Bar.start.reportAll (told.map Event.units)) told :=
    Follows.start.reportAll hle
  have hsmall : ∀ u ∈ told.map Event.units, u.count ≤ resolution := by
    intro u hu
    obtain ⟨e, he, rfl⟩ := List.mem_map.1 hu
    exact (increment_le_sum he).trans hle
  have hstart : (.start : Bar Float) = (.start : Bar Units).toFloat := by decide +kernel
  have heq : Bar.start.reportAll (told.map Event.fraction) =
      (Bar.start.reportAll (told.map Event.units)).toFloat := by
    rw [← Bar.reportAll_toFloat (Nat.zero_le _) hsmall, ← hstart, List.map_map]
    rfl
  rw [heq, ← hsum]
  refine ⟨congrArg Units.toFloat (congrArg Units.mk hfollows.count_eq), ?_⟩
  exact hfollows.position_eq.trans (if_congr hadvances rfl rfl)

end Titles

theorem Advances.mono {as bs : List Event} (h : Advances as) (hbs : as <+: bs) :
    Advances bs := by
  obtain ⟨rest, rfl⟩ := hbs
  exact advances_append.2 (Or.inl h)

theorem advances_of_sum_pos {es : List Event} (h : 0 < incrementSum es) : Advances es := by
  induction es with
  | nil => exact absurd h (Nat.lt_irrefl 0)
  | cons e es ih =>
    by_cases he : 0 < e.increment
    · exact ⟨e, List.mem_cons_self, he⟩
    · rw [incrementSum, Nat.eq_zero_of_not_pos he, Nat.zero_add] at h
      obtain ⟨e', he', hpos⟩ := ih h
      exact ⟨e', List.mem_cons_of_mem e he', hpos⟩

namespace Tracker

variable {t t' : Tracker} {es es' : List Event} {total : ℕ}

namespace Kept

/-- The bar has the reported fraction, and the step nearest to it. -/
theorem ofEvents (h : Kept total t es) (titles : List String) :
    (Bar.ofEvents titles es).fraction = t.reportedFraction ∧
      (Bar.ofEvents titles es).position =
        if Advances es then some (Gauge.step (⟨t.units⟩ : Units)) else none := by
  have hsum := h.2.1.sum_eq
  have heq := ofEvents_eq titles (hsum.trans_le h.2.1.units_le)
  rwa [hsum] at heq

theorem step_of_position (h : Kept total t es) {titles : List String} {p : ℕ}
    (hp : (Bar.ofEvents titles es).position = some p) :
    Advances es ∧ p = Gauge.step (⟨t.units⟩ : Units) := by
  rw [(h.ofEvents titles).2] at hp
  split at hp
  · exact ⟨‹_›, (Option.some.inj hp).symm⟩
  · cases hp

theorem position_of_advances (h : Kept total t es) (titles : List String) (ha : Advances es) :
    (Bar.ofEvents titles es).position = some (Gauge.step (⟨t.units⟩ : Units)) :=
  (h.ofEvents titles).2.trans (if_pos ha)

theorem position_mono (h : Kept total t es) (h' : Kept total t' es') (hes : es <+: es')
    {titles : List String} {p : ℕ} (hp : (Bar.ofEvents titles es).position = some p) :
    ∃ p', (Bar.ofEvents titles es').position = some p' ∧ p ≤ p' := by
  obtain ⟨hadvances, rfl⟩ := h.step_of_position hp
  have hle := incrementSum_le_of_prefix hes
  rw [h.2.1.sum_eq, h'.2.1.sum_eq] at hle
  exact ⟨_, h'.position_of_advances titles (hadvances.mono hes), step_mono hle⟩

theorem position_near_percent (h : Kept total t es) {titles : List String} {p : ℕ}
    (hp : (Bar.ofEvents titles es).position = some p) {e : Event} (he : es.getLast? = some e) :
    ∃ percent, e.message = percentText percent ∧ 10 * percent ≤ p ∧ p ≤ 10 * percent + 10 := by
  obtain ⟨-, rfl⟩ := h.step_of_position hp
  obtain ⟨-, hbooks, ps, hshown⟩ := h
  have hlast : (es.getLast?.map Event.message).getD (percentText 0) = percentText t.percent :=
    hshown.last
  rw [he, hbooks.percent] at hlast
  exact ⟨percentOf t.units, hlast, step_near_percent t.units⟩

theorem position_of_whole (h : Kept total t es) (titles : List String)
    (hunits : t.units = resolution) : (Bar.ofEvents titles es).position = some 1000 := by
  have hpos : 0 < incrementSum es := by
    rw [h.2.1.sum_eq, hunits]
    decide
  rw [h.position_of_advances titles (advances_of_sum_pos hpos), hunits, step_whole]

end Kept

/-- Whatever counts a tracker of known length is told, a bar that is told some titles and then all
its events has exactly the fraction that the tracker has reported. It gives no position before the
first increment, and from then on the thousandth nearest to the fraction, a half going up. The
position is at most a thousand and never falls; it lies in the ten steps from the percentage shown
last, and after the end of the transfer the bar is full. -/
theorem bar_follows_tracker (total : UInt64) (titles : List String) (ns : List Notice) :
    let r := (start (some total.toNat)).run ns
    let b := Bar.ofEvents titles r.2
    b.fraction = r.1.reportedFraction ∧
      b.position = (if ∃ e ∈ r.2, 0 < e.increment then some ⌊1000 * r.1.fraction + 1 / 2⌋₊
        else none) ∧
      (∀ p, b.position = some p → p ≤ 1000 ∧
        ∀ e, r.2.getLast? = some e →
          ∃ percent, e.message = percentText percent ∧ 10 * percent ≤ p ∧ p ≤ 10 * percent + 10) ∧
      (∀ more, let later := Bar.ofEvents titles ((start (some total.toNat)).run (ns ++ more)).2
        ∀ p, b.position = some p → ∃ p', later.position = some p' ∧ p ≤ p') ∧
      ∀ received, .finish received ∈ ns → b.position = some 1000 := by
  intro r b
  have hkept : Kept total.toNat r.1 r.2 := kept_run total.toNat ns
  obtain ⟨hfraction, hposition⟩ := hkept.ofEvents titles
  rw [step_eq_floor] at hposition
  refine ⟨hfraction, hposition, fun p hp => ⟨?_, fun e he => hkept.position_near_percent hp he⟩, ?_,
    ?_⟩
  · rw [(hkept.step_of_position hp).2]
    exact step_le hkept.2.1.units_le
  · intro more later p hp
    have hlater := kept_run total.toNat (ns ++ more)
    refine hkept.position_mono hlater ?_ hp
    rw [run_append]
    exact List.prefix_append _ _
  · intro received hreceived
    obtain ⟨before, after, rfl⟩ := List.append_of_mem hreceived
    have hunits := ((kept_run total.toNat before).run_finished received after).1
    apply hkept.position_of_whole titles
    simp only [r, run_append]
    exact hunits

end Tracker

end ServerLauncher.Progress
