import Mathlib.Data.Rat.Floor
import ServerLauncher.Proofs.Exactness

/-!
What a tracker of a transfer of known length shows. Every event shows the whole percentage of the
share that has been reported with it, which is larger than the one shown before; the shares of all
events add up to the reported fraction, and after the end of the transfer that is the whole.
-/

namespace ServerLauncher.Progress

def Event.share (e : Event) : ℚ := e.increment / resolution

def Tracker.fraction (t : Tracker) : ℚ := t.units / resolution

theorem sum_share (es : List Event) :
    (es.map Event.share).sum = (incrementSum es : ℚ) / resolution := by
  induction es with
  | nil => simp [incrementSum]
  | cons e es ih => simp only [List.map_cons, List.sum_cons, ih, Event.share, incrementSum,
      Nat.cast_add, add_div]

theorem floor_percent (units : ℕ) :
    ⌊100 * ((units : ℚ) / resolution)⌋₊ = Tracker.percentOf units := by
  have hquotient : 100 * ((units : ℚ) / resolution) = ((units * 100 : ℕ) : ℚ) / resolution := by
    push_cast
    ring
  rw [hquotient, Rat.natFloor_natCast_div_natCast]
  rfl

def percentText (percent : ℕ) : String := toString percent ++ "%"

theorem percentText_inj {p q : ℕ} : percentText p = percentText q ↔ p = q := by
  constructor
  · intro h
    have hrepr : p.repr = q.repr := (String.append_left_inj "%").1 h
    have hdigits : Nat.toDigits 10 p = Nat.toDigits 10 q := by
      simpa only [Nat.toList_repr] using congrArg String.toList hrepr
    rw [← Nat.ofDigitChars_ten_toDigits (n := p), hdigits, Nat.ofDigitChars_ten_toDigits]
  · intro h
    exact h ▸ rfl

/-- The percentage that the last event shows, or none shows zero. -/
def LastShown (es : List Event) (percent : ℕ) : Prop :=
  (es.getLast?.map Event.message).getD (percentText 0) = percentText percent

namespace Tracker

theorem percentOf_resolution : percentOf resolution = 100 := by decide

/-- The percentages that the events show, one for each. -/
structure Shown (t : Tracker) (es : List Event) (ps : List ℕ) : Prop where
  messages : es.map Event.message = ps.map percentText
  reached : ∀ i p, ps[i]? = some p → p = percentOf (incrementSum (es.take (i + 1)))
  rising : ps.Pairwise (· < ·)
  le_percent : ∀ p ∈ ps, p ≤ t.percent
  last : LastShown es t.percent

variable {t : Tracker} {es : List Event} {ps : List ℕ} {total : ℕ}

theorem Shown.start (total : Option ℕ) : Shown (.start total) [] [] where
  messages := rfl
  reached := by simp
  rising := List.Pairwise.nil
  le_percent := by simp
  last := rfl

theorem Shown.length_eq (h : Shown t es ps) : es.length = ps.length := by
  have hlength := congrArg List.length h.messages
  rwa [List.length_map, List.length_map] at hlength

/-- A larger share that is entered in the books shows its percentage if that is larger too. -/
theorem Shown.report (h : Shown t es ps) {units : ℕ}
    (hbooks : Accounts (t.report units (percentOf units)).1
      (es ++ [(t.report units (percentOf units)).2]))
    (hpercent : t.percent < percentOf units) :
    Shown (t.report units (percentOf units)).1 (es ++ [(t.report units (percentOf units)).2])
      (ps ++ [percentOf units]) where
  messages := by
    rw [List.map_append, List.map_append, h.messages]
    rfl
  reached i p hp := by
    rw [List.getElem?_append] at hp
    split at hp
    · rename_i hi
      rw [List.take_append_of_le_length (h.length_eq ▸ hi)]
      exact h.reached i p hp
    · rename_i hi
      obtain ⟨hzero, rfl⟩ : i - ps.length = 0 ∧ percentOf units = p := by
        simpa [List.getElem?_singleton] using hp
      have hall : (es ++ [(t.report units (percentOf units)).2]).length ≤ i + 1 := by
        rw [List.length_append, List.length_singleton, h.length_eq]
        omega
      rw [List.take_of_length_le hall, hbooks.sum_eq]
      rfl
  rising := List.pairwise_append.2 ⟨h.rising, List.pairwise_singleton _ _, fun p hp q hq => by
    rw [List.mem_singleton.1 hq]
    exact Nat.lt_of_le_of_lt (h.le_percent p hp) hpercent⟩
  le_percent p hp := by
    rcases List.mem_append.1 hp with hp | hp
    · exact Nat.le_of_lt (Nat.lt_of_le_of_lt (h.le_percent p hp) hpercent)
    · exact Nat.le_of_eq (List.mem_singleton.1 hp)
  last := by
    rw [LastShown, List.getLast?_concat]
    rfl

/-- All that a notice does to a tracker of known length: nothing, or it reports a larger share with
a larger percentage. -/
theorem Accounts.hear_cases (h : Accounts t es) (htotal : t.total = some total) (n : Notice) :
    t.hear n = (t, none) ∨ ∃ units, t.units < units ∧ units ≤ resolution ∧
      t.percent < percentOf units ∧
      t.hear n = ((t.report units (percentOf units)).1,
        some (t.report units (percentOf units)).2) := by
  cases n with
  | advance now received =>
    rw [Tracker.hear, advance_of_known htotal]
    split
    · rename_i hmore
      exact Or.inr ⟨_, hmore.2, unitsFor_le _ _, hmore.1, rfl⟩
    · exact Or.inl rfl
  | finish received =>
    simp only [Tracker.hear, Tracker.finish, htotal]
    split
    · rename_i hless
      have hpercent : t.percent < percentOf resolution := by
        rw [h.percent]
        exact percentOf_lt hless
      refine Or.inr ⟨resolution, hless, Nat.le_refl _, hpercent, ?_⟩
      rw [percentOf_resolution]
    · exact Or.inl rfl

/-- The books of a tracker of this length, and the percentages shown. -/
def Kept (total : ℕ) (t : Tracker) (es : List Event) : Prop :=
  t.total = some total ∧ t.Accounts es ∧ ∃ ps, Shown t es ps

theorem Kept.start (total : ℕ) : Kept total (.start (some total)) [] :=
  ⟨rfl, .start _, [], .start _⟩

theorem Kept.hear (h : Kept total t es) (n : Notice) :
    Kept total (t.hear n).1 (es ++ (t.hear n).2.toList) := by
  obtain ⟨htotal, hbooks, ps, hshown⟩ := h
  have hnext := hbooks.hear n
  refine ⟨(t.hear_total n).trans htotal, hnext, ?_⟩
  rcases hbooks.hear_cases htotal n with heq | ⟨units, -, -, hpercent, heq⟩
  · rw [heq]
    exact ⟨ps, by simpa using hshown⟩
  · rw [heq] at hnext ⊢
    exact ⟨_, hshown.report hnext hpercent⟩

theorem Kept.run (h : Kept total t es) (ns : List Notice) :
    Kept total (t.run ns).1 (es ++ (t.run ns).2) :=
  run_preserves (P := Kept total) (fun _ _ n hkept => hkept.hear n) h ns

theorem kept_run (total : ℕ) (ns : List Notice) :
    Kept total ((start (some total)).run ns).1 ((start (some total)).run ns).2 :=
  (Kept.start total).run ns

/-- When the whole has been reported, nothing is left to be said. -/
theorem Kept.run_of_whole (h : Kept total t es) (hunits : t.units = resolution)
    (ns : List Notice) : t.run ns = (t, []) := by
  obtain ⟨htotal, hbooks, -⟩ := h
  induction ns with
  | nil => rfl
  | cons n ns ih =>
    have hstill : t.hear n = (t, none) := by
      rcases hbooks.hear_cases htotal n with heq | ⟨units, hless, hle, -⟩
      · exact heq
      · omega
    rw [Tracker.run, hstill, ih]
    rfl

theorem Kept.share (h : Kept total t es) {e : Event} (he : e ∈ es) :
    ∃ k : ℕ, 0 < k ∧ e.share = k / 2 ^ 20 := by
  obtain ⟨htotal, hbooks, -⟩ := h
  refine ⟨e.increment, hbooks.positive (by rw [htotal]; rfl) e he, ?_⟩
  rw [Event.share, resolution]
  norm_num

theorem Kept.sum_share (h : Kept total t es) : (es.map Event.share).sum = t.fraction := by
  rw [Progress.sum_share, h.2.1.sum_eq, fraction]

theorem Kept.fraction_le_one (h : Kept total t es) : t.fraction ≤ 1 := by
  have hle : (t.units : ℚ) ≤ resolution := by exact_mod_cast h.2.1.units_le
  exact div_le_one_of_le₀ hle (Nat.cast_nonneg _)

theorem Kept.length_le (h : Kept total t es) : es.length ≤ 100 :=
  Nat.le_trans (h.2.1.length_le (by rw [h.1]; rfl)) h.2.1.percent_le

theorem fraction_of_whole (hunits : t.units = resolution) : t.fraction = 1 := by
  rw [fraction, hunits]
  exact div_self (by decide)

/-- The end of the transfer makes up the whole, and what is said afterwards changes nothing. -/
theorem Kept.run_finished (h : Kept total t es) (received : UInt64) (after : List Notice) :
    (t.run (.finish received :: after)).1.units = resolution ∧
      (t.run (.finish received :: after)).2 = (t.run [.finish received]).2 := by
  have hunits : (t.hear (.finish received)).1.units = resolution :=
    finish_units h.2.1 (by rw [h.1]; rfl) received.toNat
  rw [run_singleton, Tracker.run, (h.hear (.finish received)).run_of_whole hunits after]
  exact ⟨hunits, List.append_nil _⟩

/-- Whatever counts a tracker of known length is told, in any order, all its products and
differences are words. Every event adds a positive number of units of 2^-20, and their sum is the
reported fraction, exactly and also as binary64 numbers; it is at most one. The percentages rise,
each is the whole percentage of the sum so far, and there are at most a hundred. After the end of
the transfer the fraction is one, and nothing more is said. -/
theorem exact_rising_percentages (total : UInt64) (ns : List Notice) :
    let r := (start (some total.toNat)).run ns
    (start (some total.toNat)).run? ns = some r ∧
      (∀ e ∈ r.2, ∃ k : ℕ, 0 < k ∧ e.share = k / 2 ^ 20) ∧
      (r.2.map Event.share).sum = r.1.fraction ∧ r.1.fraction ≤ 1 ∧
      roundedSum r.2 = r.1.units ∧ Number.nearestBinary64 r.1.units = r.1.units ∧
      (∃ ps : List ℕ, r.2.map Event.message = ps.map percentText ∧ ps.Pairwise (· < ·) ∧
        ∀ i p, ps[i]? = some p → p = ⌊100 * ((r.2.take (i + 1)).map Event.share).sum⌋₊) ∧
      r.2.length ≤ 100 ∧
      ∀ before received after, ns = before ++ .finish received :: after →
        r.1.fraction = 1 ∧
          r.2 = ((start (some total.toNat)).run (before ++ [.finish received])).2 := by
  intro r
  have hkept : Kept total.toNat r.1 r.2 := kept_run total.toNat ns
  have hle := hkept.2.1.units_le
  have hsum := hkept.2.1.sum_eq
  obtain ⟨ps, hshown⟩ := hkept.2.2
  have hrounded : roundedSum r.2 = r.1.units := (roundedSum_eq (hsum.trans_le hle)).trans hsum
  refine ⟨run?_eq _ ns, ?_, hkept.sum_share, hkept.fraction_le_one, hrounded,
    nearestBinary64_of_lt ?_, ⟨ps, hshown.messages, hshown.rising, ?_⟩, hkept.length_le, ?_⟩
  · intro e he
    exact hkept.share he
  · unfold resolution at hle
    omega
  · intro i p hp
    rw [Progress.sum_share, floor_percent]
    exact hshown.reached i p hp
  · rintro before received after rfl
    have hearlier := kept_run total.toNat before
    obtain ⟨hunits, hevents⟩ := hearlier.run_finished received after
    refine ⟨fraction_of_whole ?_, ?_⟩
    · simp only [r, run_append]
      exact hunits
    · simp only [r, run_append, hevents]

end Tracker

end ServerLauncher.Progress
