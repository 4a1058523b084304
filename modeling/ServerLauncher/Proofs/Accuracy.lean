import Mathlib.Tactic.Linarith
import ServerLauncher.Proofs.Percentages

/-!
How well a tracker follows a transfer whose count of bytes never falls. The reported fraction never
exceeds the share that has arrived, and falls behind it by less than one percent and one unit. The
percentage shown is that of the whole units that have arrived, not of the bytes: it is one less than
the whole percentage of the bytes where these lie less than a unit above it.
-/

namespace ServerLauncher.Progress

/-- The share of a transfer that has arrived. Nothing is all of nothing. -/
def arrivedShare (received total : ℕ) : ℚ :=
  if total = 0 then 1 else (min received total : ℕ) / total

/-- Counts of bytes with the times at which they are told. -/
def arrivals (counts : List (ℕ × UInt64)) : List Tracker.Notice :=
  counts.map fun c => .advance c.1 c.2

namespace Tracker

variable {t : Tracker} {total earlier received units units' : ℕ}

theorem unitsFor_mono (h : earlier ≤ received) :
    unitsFor earlier total ≤ unitsFor received total := by
  unfold unitsFor
  split
  · exact Nat.le_refl _
  · exact min_le_min_right _ (Nat.div_le_div_right (Nat.mul_le_mul_right _ h))

theorem percentOf_mono (h : units ≤ units') : percentOf units ≤ percentOf units' :=
  Nat.div_le_div_right (Nat.mul_le_mul_right _ h)

theorem unitsFor_eq (h : 0 < total) :
    unitsFor received total = min received total * resolution / total := by
  rw [unitsFor, if_neg (Nat.ne_of_gt h)]
  rcases Nat.le_total received total with hle | hge
  · have hwhole : received * resolution / total ≤ resolution :=
      Nat.div_le_of_le_mul (Nat.mul_le_mul_right _ hle)
    rw [Nat.min_eq_left hle, Nat.min_eq_left hwhole]
  · have hwhole : resolution ≤ received * resolution / total :=
      (Nat.le_div_iff_mul_le h).2 (by rw [Nat.mul_comm]; exact Nat.mul_le_mul_right _ hge)
    rw [Nat.min_eq_right hge, Nat.min_eq_right hwhole, Nat.mul_div_cancel_left _ h]

theorem units_div_le (received total : ℕ) :
    (unitsFor received total : ℚ) / resolution ≤ arrivedShare received total := by
  rcases Nat.eq_zero_or_pos total with rfl | h
  · simp [unitsFor, arrivedShare, resolution]
  · rw [arrivedShare, if_neg (Nat.ne_of_gt h), unitsFor_eq h]
    have hmul : min received total * resolution / total * total ≤
        min received total * resolution := Nat.div_mul_le_self _ _
    rw [div_le_div_iff₀ (by decide) (by exact_mod_cast h)]
    exact_mod_cast hmul

theorem arrivedShare_sub_lt (received total : ℕ) :
    arrivedShare received total - (unitsFor received total : ℚ) / resolution < 1 / 2 ^ 20 := by
  rcases Nat.eq_zero_or_pos total with rfl | h
  · simp [unitsFor, arrivedShare, resolution]
  · rw [arrivedShare, if_neg (Nat.ne_of_gt h), unitsFor_eq h]
    have hmul : min received total * resolution <
        (min received total * resolution / total + 1) * total := by
      rw [Nat.mul_comm _ total]
      exact Nat.lt_mul_div_succ _ h
    have hdiv : ((min received total : ℕ) : ℚ) / total <
        ((min received total * resolution / total : ℕ) + 1) / resolution := by
      rw [div_lt_div_iff₀ (by exact_mod_cast h) (by decide)]
      exact_mod_cast hmul
    have hunit : (1 : ℚ) / resolution = 1 / 2 ^ 20 := by norm_num [resolution]
    rw [add_div, hunit] at hdiv
    linarith

/-- Two shares with the same whole percentage are less than one percent apart. -/
theorem share_sub_lt (h : percentOf units = percentOf units') :
    (units' : ℚ) / resolution - (units : ℚ) / resolution < 1 / 100 := by
  have hless : units' * 100 < units * 100 + resolution := by
    unfold percentOf resolution at *
    omega
  have hcast : (units' : ℚ) * 100 < units * 100 + resolution := by exact_mod_cast hless
  have hpos : (0 : ℚ) < resolution := by decide
  rw [← sub_div, div_lt_div_iff₀ hpos (by norm_num)]
  linarith

/-- A tracker of this length that has reported no more than has arrived. -/
structure Behind (t : Tracker) (total received : ℕ) : Prop where
  total_eq : t.total = some total
  percent_eq : t.percent = percentOf t.units
  units_le : t.units ≤ unitsFor received total

namespace Behind

theorem start (total : ℕ) : Behind (.start (some total)) total 0 where
  total_eq := rfl
  percent_eq := (Accounts.start (some total)).percent
  units_le := Nat.zero_le _

theorem mono (h : Behind t total earlier) (hle : earlier ≤ received) : Behind t total received :=
  ⟨h.total_eq, h.percent_eq, Nat.le_trans h.units_le (unitsFor_mono hle)⟩

theorem advance_eq (h : Behind t total received) (now : ℕ) :
    t.advance now received =
      if t.percent < percentOf (unitsFor received total) then
        ((t.report (unitsFor received total) (percentOf (unitsFor received total))).1,
          some (t.report (unitsFor received total) (percentOf (unitsFor received total))).2)
      else (t, none) := by
  have hunits : t.percent < percentOf (unitsFor received total) →
      t.units < unitsFor received total := by
    intro hless
    apply Nat.lt_of_not_le
    intro hge
    have hmono := percentOf_mono hge
    rw [← h.percent_eq] at hmono
    omega
  simp only [advance_of_known h.total_eq, and_iff_left_of_imp hunits]

theorem advance (h : Behind t total received) (now : ℕ) :
    Behind (t.advance now received).1 total received ∧
      (t.advance now received).1.percent = percentOf (unitsFor received total) := by
  rw [h.advance_eq now]
  split
  · exact ⟨⟨h.total_eq, rfl, Nat.le_refl _⟩, rfl⟩
  · rename_i hless
    refine ⟨h, Nat.le_antisymm ?_ (Nat.le_of_not_lt hless)⟩
    rw [h.percent_eq]
    exact percentOf_mono h.units_le

theorem run (h : Behind t total earlier) (counts : List (ℕ × UInt64)) {received : UInt64}
    (hfirst : ∀ c ∈ counts.map Prod.snd ++ [received], earlier ≤ c.toNat)
    (hmono : (counts.map Prod.snd ++ [received]).Pairwise (· ≤ ·)) :
    Behind (t.run (arrivals counts)).1 total received.toNat := by
  induction counts generalizing t earlier with
  | nil => exact h.mono (hfirst received (by simp))
  | cons c counts ih =>
    rw [List.map_cons, List.cons_append, List.pairwise_cons] at hmono
    have hc : earlier ≤ c.2.toNat := hfirst c.2 (by simp)
    have hnext := ((h.mono hc).advance c.1).1
    exact ih hnext (fun d hd => UInt64.le_iff_toNat_le.1 (hmono.1 d hd)) hmono.2

end Behind

theorem behind_run (total : UInt64) (counts : List (ℕ × UInt64)) {received : UInt64}
    (hmono : (counts.map Prod.snd ++ [received]).Pairwise (· ≤ ·)) :
    Behind ((start (some total.toNat)).run (arrivals counts)).1 total.toNat received.toNat :=
  (Behind.start total.toNat).run counts (fun _ _ => Nat.zero_le _) hmono

theorem Behind.message (h : Behind t total received) (now : ℕ) :
    (t.advance now received).2.map Event.message =
      if t.percent < percentOf (unitsFor received total) then
        some (percentText (percentOf (unitsFor received total)))
      else none := by
  rw [h.advance_eq now]
  split <;> rfl

theorem total_le_of_percent (h : percentOf (unitsFor received total) = 100) : total ≤ received := by
  rcases Nat.eq_zero_or_pos total with rfl | hpos
  · exact Nat.zero_le _
  · apply Nat.le_of_not_lt
    intro hless
    have hunits : unitsFor received total < resolution := by
      rw [unitsFor_eq hpos, Nat.min_eq_left (Nat.le_of_lt hless)]
      exact (Nat.div_lt_iff_lt_mul hpos).2
        (by rw [Nat.mul_comm resolution]; exact Nat.mul_lt_mul_of_pos_right hless (by decide))
    have := percentOf_lt hunits
    omega

/-- While the count of bytes never falls, the reported fraction is at most the share that has
arrived, and less than one percent and one unit below it. All of it is shown only when all has
arrived. -/
theorem fraction_follows_arrivals (total : UInt64) (counts : List (ℕ × UInt64)) (now : ℕ)
    (received : UInt64) (hmono : (counts.map Prod.snd ++ [received]).Pairwise (· ≤ ·)) :
    let t := ((start (some total.toNat)).run (arrivals counts)).1
    let next := t.hear (.advance now received)
    next.1.fraction ≤ arrivedShare received.toNat total.toNat ∧
      arrivedShare received.toNat total.toNat - next.1.fraction < 1 / 100 + 1 / 2 ^ 20 ∧
      ∀ e, next.2 = some e → e.message = "100%" → total ≤ received := by
  intro t next
  have hbehind : Behind t total.toNat received.toNat := behind_run total counts hmono
  obtain ⟨hnext, hpercent⟩ := hbehind.advance now
  have hle : next.1.fraction ≤ (unitsFor received.toNat total.toNat : ℚ) / resolution := by
    have hcast : (next.1.units : ℚ) ≤ unitsFor received.toNat total.toNat := by
      exact_mod_cast hnext.units_le
    exact div_le_div_of_nonneg_right hcast (Nat.cast_nonneg _)
  have hnear : (unitsFor received.toNat total.toNat : ℚ) / resolution - next.1.fraction < 1 / 100 :=
    share_sub_lt (hnext.percent_eq.symm.trans hpercent)
  refine ⟨hle.trans (units_div_le _ _), ?_, ?_⟩
  · have hunit := arrivedShare_sub_lt received.toNat total.toNat
    linarith
  · intro e he hmessage
    have hsome := hbehind.message now
    have hevent : (t.advance now received.toNat).2 = some e := he
    rw [hevent, Option.map_some, hmessage] at hsome
    split at hsome
    · have hall : percentText 100 = percentText (percentOf (unitsFor received.toNat total.toNat)) :=
        Option.some.inj hsome
      exact UInt64.le_iff_toNat_le.2 (total_le_of_percent (percentText_inj.1 hall).symm)
    · cases hsome

theorem largest_transfer_followed :
    ([((0 : ℕ), (5 : UInt64))].map Prod.snd ++ [9223372036854775808]).Pairwise (· ≤ ·) ∧
      let t := ((start (some 18446744073709551615)).run (arrivals [(0, 5)])).1
      let next := t.hear (.advance 0 9223372036854775808)
      let x := arrivedShare 9223372036854775808 18446744073709551615
      next.1.fraction ≤ x ∧ x - next.1.fraction < 1 / 100 + 1 / 2 ^ 20 ∧
        ∀ e, next.2 = some e → e.message = "100%" →
          (18446744073709551615 : UInt64) ≤ 9223372036854775808 := by
  have hmono : ([((0 : ℕ), (5 : UInt64))].map Prod.snd ++ [9223372036854775808]).Pairwise
      (· ≤ ·) := by decide
  exact ⟨hmono,
    fraction_follows_arrivals 18446744073709551615 [(0, 5)] 0 9223372036854775808 hmono⟩

/-- The whole percentage of the bytes that have arrived. -/
def wholePercent (received total : ℕ) : ℕ := 100 * min received total / total

/-- The bytes make up their whole percentage, but the whole units in them do not. -/
def JustAbove (received total : ℕ) : Prop :=
  unitsFor received total * 100 < wholePercent received total * resolution

theorem justAbove_iff :
    JustAbove received total ↔
      percentOf (unitsFor received total) < wholePercent received total :=
  (Nat.div_lt_iff_lt_mul (by decide)).symm

theorem wholePercent_mul_le (received total : ℕ) :
    wholePercent received total * total ≤ 100 * min received total :=
  Nat.div_mul_le_self _ _

theorem min_mul_resolution_lt (h : 0 < total) :
    min received total * resolution < (unitsFor received total + 1) * total := by
  rw [unitsFor_eq h, Nat.mul_comm _ total]
  exact Nat.lt_mul_div_succ _ h

theorem percentOf_le_wholePercent (h : 0 < total) :
    percentOf (unitsFor received total) ≤ wholePercent received total := by
  refine (Nat.le_div_iff_mul_le h).2 (Nat.le_of_mul_le_mul_right ?_ (by decide : 0 < resolution))
  have hunits : unitsFor received total * total ≤ min received total * resolution := by
    rw [unitsFor_eq h]
    exact Nat.div_mul_le_self _ _
  calc percentOf (unitsFor received total) * total * resolution
      = percentOf (unitsFor received total) * resolution * total := Nat.mul_right_comm _ _ _
    _ ≤ unitsFor received total * 100 * total := Nat.mul_le_mul_right _ (Nat.div_mul_le_self _ _)
    _ = 100 * (unitsFor received total * total) := by ring
    _ ≤ 100 * (min received total * resolution) := Nat.mul_le_mul_left _ hunits
    _ = 100 * min received total * resolution := (Nat.mul_assoc _ _ _).symm

theorem wholePercent_mul_resolution_lt (h : 0 < total) :
    wholePercent received total * resolution < 100 * (unitsFor received total + 1) := by
  apply Nat.lt_of_mul_lt_mul_right (a := total)
  calc wholePercent received total * resolution * total
      = wholePercent received total * total * resolution := Nat.mul_right_comm _ _ _
    _ ≤ 100 * min received total * resolution :=
      Nat.mul_le_mul_right _ (wholePercent_mul_le received total)
    _ = 100 * (min received total * resolution) := Nat.mul_assoc _ _ _
    _ < 100 * ((unitsFor received total + 1) * total) :=
      Nat.mul_lt_mul_of_pos_left (min_mul_resolution_lt h) (by decide)
    _ = 100 * (unitsFor received total + 1) * total := (Nat.mul_assoc _ _ _).symm

/-- The percentage of the units is that of the bytes, or one less. -/
theorem percent_cases (h : 0 < total) :
    (JustAbove received total ∧
        percentOf (unitsFor received total) + 1 = wholePercent received total) ∨
      (¬ JustAbove received total ∧
        percentOf (unitsFor received total) = wholePercent received total) := by
  have hle : percentOf (unitsFor received total) ≤ wholePercent received total :=
    percentOf_le_wholePercent h
  have hge : wholePercent received total ≤ percentOf (unitsFor received total) + 1 := by
    have hless : wholePercent received total * resolution < 100 * (unitsFor received total + 1) :=
      wholePercent_mul_resolution_lt h
    unfold percentOf resolution at *
    omega
  rw [justAbove_iff]
  omega

theorem JustAbove.arrivedShare_lt (h : JustAbove received total) :
    arrivedShare received total < (wholePercent received total : ℚ) / 100 + 1 / 2 ^ 20 := by
  have hnear := arrivedShare_sub_lt received total
  have hcast : (unitsFor received total : ℚ) * 100 < wholePercent received total * resolution := by
    exact_mod_cast h
  have hbelow : (unitsFor received total : ℚ) / resolution <
      (wholePercent received total : ℚ) / 100 := by
    rw [div_lt_div_iff₀ (by decide) (by norm_num)]
    exact hcast
  linarith

/-- Quarters of the transfer are whole numbers of units, so no bytes lie just above them. -/
theorem JustAbove.not_dvd (htotal : 0 < total) (h : JustAbove received total) :
    ¬ 25 ∣ wholePercent received total := by
  rintro ⟨k, hk⟩
  have hfloor := wholePercent_mul_le received total
  rw [hk, Nat.mul_assoc] at hfloor
  have hquarter : k * total ≤ 4 * min received total := by omega
  have hunits : k * 262144 ≤ unitsFor received total := by
    rw [unitsFor_eq htotal]
    refine (Nat.le_div_iff_mul_le htotal).2 ?_
    calc k * 262144 * total = k * total * 262144 := Nat.mul_right_comm _ _ _
      _ ≤ 4 * min received total * 262144 := Nat.mul_le_mul_right _ hquarter
      _ = min received total * resolution := by rw [resolution]; ring
  unfold JustAbove at h
  rw [hk] at h
  unfold resolution at h
  omega

theorem isSome_iff_of_message {event : Option Event} {due : Prop} [Decidable due] {text : String}
    (h : event.map Event.message = if due then some text else none) :
    (event.isSome = true ↔ due) ∧ ∀ e ∈ event, e.message = text := by
  cases event with
  | none =>
    have hnot : ¬ due := fun hdue => by simp [hdue] at h
    simp [hnot]
  | some e =>
    have hdue : due := Classical.byContradiction fun hnot => by simp [hnot] at h
    simpa [hdue] using h

/-- While the count of bytes never falls, an event follows a count when the whole percentage of its
units exceeds the one shown last, which is zero at first, and shows that percentage. It is the whole
percentage of the bytes, and the event is the one that this percentage calls for, unless the bytes
lie just above it: then it is one less. The bytes lie less than a unit above it in this case, and
never just above a quarter of the transfer. -/
theorem percentage_of_units_shown (total : UInt64) (counts : List (ℕ × UInt64)) (now : ℕ)
    (received : UInt64) (hpos : 0 < total)
    (hmono : (counts.map Prod.snd ++ [received]).Pairwise (· ≤ ·)) :
    let r := (start (some total.toNat)).run (arrivals counts)
    let event := (r.1.hear (.advance now received)).2
    let p := percentOf (unitsFor received.toNat total.toNat)
    let q := wholePercent received.toNat total.toNat
    (JustAbove received.toNat total.toNat ∧ p + 1 = q ∨
        ¬ JustAbove received.toNat total.toNat ∧ p = q) ∧
      (JustAbove received.toNat total.toNat →
        arrivedShare received.toNat total.toNat < (q : ℚ) / 100 + 1 / 2 ^ 20 ∧ ¬ 25 ∣ q) ∧
      ∃ last, LastShown r.2 last ∧
        event.map Event.message = (if last < p then some (percentText p) else none) ∧
        ((event.isSome = true ↔ last < q) ∧ (∀ e ∈ event, e.message = percentText q) ↔
          ¬ JustAbove received.toNat total.toNat) := by
  intro r event p q
  have htotal : 0 < total.toNat := UInt64.lt_iff_toNat_lt.1 hpos
  have hcases : JustAbove received.toNat total.toNat ∧ p + 1 = q ∨
      ¬ JustAbove received.toNat total.toNat ∧ p = q := percent_cases htotal
  obtain ⟨-, -, ps, hshown⟩ := kept_run total.toNat (arrivals counts)
  have hbehind : Behind r.1 total.toNat received.toNat := behind_run total counts hmono
  have hmessage : event.map Event.message =
      if r.1.percent < p then some (percentText p) else none := hbehind.message now
  have hlast : r.1.percent ≤ p := by
    rw [hbehind.percent_eq]
    exact percentOf_mono hbehind.units_le
  refine ⟨hcases, ?_, r.1.percent, hshown.last, hmessage, ?_⟩
  · intro h
    exact ⟨h.arrivedShare_lt, h.not_dvd htotal⟩
  obtain ⟨hsome, htext⟩ := isSome_iff_of_message hmessage
  rcases hcases with ⟨hjust, hpq⟩ | ⟨hnot, hpq⟩
  · refine iff_of_false (fun ⟨hcalled, hshows⟩ => ?_) (not_not.2 hjust)
    obtain ⟨e, he⟩ := Option.isSome_iff_exists.1 (hcalled.2 (by omega))
    have hsame : p = q := percentText_inj.1 ((htext e he).symm.trans (hshows e he))
    omega
  · rw [show q = p from hpq.symm]
    exact iff_of_true ⟨hsome, htext⟩ hnot

theorem tenth_just_above :
    (0 : UInt64) < 100 ∧ ([((0 : ℕ), (9 : UInt64))].map Prod.snd ++ [10]).Pairwise (· ≤ ·) ∧
      JustAbove 10 100 ∧ arrivedShare 10 100 < (10 : ℕ) / 100 + 1 / 2 ^ 20 ∧
      ∃ last, LastShown ((start (some 100)).run (arrivals [(0, 9)])).2 last ∧
        (((start (some 100)).run (arrivals [(0, 9)])).1.hear (.advance 0 10)).2.map Event.message =
          if last < 9 then some (percentText 9) else none := by
  have hpos : (0 : UInt64) < 100 := by decide
  have hmono : ([((0 : ℕ), (9 : UInt64))].map Prod.snd ++ [10]).Pairwise (· ≤ ·) := by decide
  have hjust : JustAbove 10 100 := by
    unfold JustAbove
    decide
  obtain ⟨-, hnear, last, hlast, hmessage, -⟩ :=
    percentage_of_units_shown 100 [(0, 9)] 0 10 hpos hmono
  exact ⟨hpos, hmono, hjust, (hnear hjust).1, last, hlast, hmessage⟩

/-- A tenth of a transfer of a hundred bytes is shown as nine percent, and a hundredth of it is not
shown. -/
theorem tenth_shown_as_nine_percent :
    let event := ((start (some 100)).hear (.advance 0 10)).2
    let first := ((start (some 100)).hear (.advance 0 1)).2
    event.map Event.message = some "9%" ∧
      ¬ (∀ e ∈ event, e.message = percentText (wholePercent 10 100)) ∧
      ¬ (first.isSome = true ↔ 0 < wholePercent 1 100) := by
  decide

end Tracker

end ServerLauncher.Progress
