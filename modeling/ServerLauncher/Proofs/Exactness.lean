import Mathlib.Algebra.Group.Nat.Defs
import ServerLauncher.Proofs.Ledger

/-!
The numbers of a tracker are exact. It reckons with machine words, where a product may be too large
and a difference below zero; a tracker that looks at every product and every difference never finds
such a one and reports the same. The units of all events are so few that binary64 numbers hold them
and all their sums without rounding.
-/

namespace ServerLauncher.Progress

def product? (bits a b : Nat) : Option Nat :=
  if a * b < 2 ^ bits then some (a * b) else none

def difference? (a b : Nat) : Option Nat :=
  if b ≤ a then some (a - b) else none

theorem product?_eq {bits a b : Nat} (h : a * b < 2 ^ bits) : product? bits a b = some (a * b) :=
  if_pos h

theorem difference?_eq {a b : Nat} (h : b ≤ a) : difference? a b = some (a - b) :=
  if_pos h

namespace Tracker

/-- A quotient that is no word of 64 bits counts as the whole. -/
def unitsFor? (received total : Nat) : Option Nat :=
  if total = 0 then some resolution
  else do
    let scaled := (← product? 128 received resolution) / total
    return if scaled < 2 ^ 64 then min scaled resolution else resolution

def percentOf? (units : Nat) : Option Nat := do
  return (← product? 64 units 100) / resolution

def report? (t : Tracker) (units percent : Nat) : Option (Tracker × Event) := do
  let increment ← difference? units t.units
  return ({ t with units, percent }, ⟨toString percent ++ "%", increment⟩)

def advance? (t : Tracker) (now received : Nat) : Option (Tracker × Option Event) :=
  match t.total with
  | some total => do
    let units ← unitsFor? received total
    let percent ← percentOf? units
    if percent ≤ t.percent ∨ units ≤ t.units then return (t, none)
    else
      let (t', e) ← t.report? units percent
      return (t', some e)
  | none => some (t.advance now received)

def finish? (t : Tracker) (received : Nat) : Option (Tracker × Option Event) :=
  match t.total with
  | some _ =>
    if t.units < resolution then do
      let (t', e) ← t.report? resolution 100
      return (t', some e)
    else some (t, none)
  | none => some (t.finish received)

def hear? (t : Tracker) : Notice → Option (Tracker × Option Event)
  | .advance now received => t.advance? now received.toNat
  | .finish received => t.finish? received.toNat

/-- Stops at the first product or difference that is no word. -/
def run? (t : Tracker) : List Notice → Option (Tracker × List Event)
  | [] => some (t, [])
  | n :: ns => do
    let (t', e) ← t.hear? n
    let (t'', es) ← t'.run? ns
    return (t'', e.toList ++ es)

theorem unitsFor?_eq {received : Nat} (h : received < 2 ^ 64) (total : Nat) :
    unitsFor? received total = some (unitsFor received total) := by
  unfold unitsFor? unitsFor
  split
  · rfl
  · have hproduct : received * resolution < 2 ^ 128 := by
      unfold resolution
      omega
    simp only [product?_eq hproduct, Option.bind_eq_bind, Option.bind_some, Option.pure_def,
      Option.some.injEq]
    split
    · rfl
    · rename_i hlarge
      have hwhole : resolution ≤ received * resolution / total :=
        Nat.le_trans (by decide) (Nat.le_of_not_lt hlarge)
      exact (Nat.min_eq_right hwhole).symm

theorem percentOf?_eq {units : Nat} (h : units ≤ resolution) :
    percentOf? units = some (percentOf units) := by
  have hproduct : units * 100 < 2 ^ 64 := by
    unfold resolution at h
    omega
  rw [percentOf?, product?_eq hproduct]
  rfl

theorem report?_eq {t : Tracker} {units : Nat} (h : t.units ≤ units) (percent : Nat) :
    t.report? units percent = some (t.report units percent) := by
  rw [report?, difference?_eq h]
  rfl

theorem advance?_eq (t : Tracker) (now : Nat) {received : Nat} (h : received < 2 ^ 64) :
    t.advance? now received = some (t.advance now received) := by
  cases htotal : t.total with
  | none => simp only [advance?, htotal]
  | some total =>
    have hpercent := percentOf?_eq (unitsFor_le received total)
    simp only [advance?, advance, htotal, unitsFor?_eq h, hpercent, Option.bind_eq_bind,
      Option.bind_some]
    by_cases hskip : percentOf (unitsFor received total) ≤ t.percent ∨
        unitsFor received total ≤ t.units
    · rw [if_pos hskip, if_pos hskip]
      rfl
    · have hunits := Nat.le_of_lt (Nat.lt_of_not_le (not_or.1 hskip).2)
      rw [if_neg hskip, if_neg hskip, report?_eq hunits]
      rfl

theorem finish?_eq (t : Tracker) (received : Nat) :
    t.finish? received = some (t.finish received) := by
  cases htotal : t.total with
  | none => simp only [finish?, htotal]
  | some total =>
    simp only [finish?, finish, htotal]
    by_cases hless : t.units < resolution
    · rw [if_pos hless, if_pos hless, report?_eq (Nat.le_of_lt hless)]
      rfl
    · rw [if_neg hless, if_neg hless]

theorem hear?_eq (t : Tracker) (n : Notice) : t.hear? n = some (t.hear n) := by
  cases n with
  | advance now received => exact t.advance?_eq now received.toNat_lt
  | finish received => exact t.finish?_eq received.toNat

theorem run?_eq (t : Tracker) (ns : List Notice) : t.run? ns = some (t.run ns) := by
  induction ns generalizing t with
  | nil => rfl
  | cons n ns ih =>
    rw [run?, hear?_eq]
    simp only [Option.bind_eq_bind, Option.bind_some, ih]
    rfl

end Tracker

theorem nearestBinary64_of_lt {n : Nat} (h : n < 2 ^ 53) : Number.nearestBinary64 n = n := by
  have hsize : n.log2 + 1 ≤ 53 := by
    rcases Nat.eq_zero_or_pos n with rfl | hpos
    · decide
    · exact (Nat.log2_lt (Nat.ne_of_gt hpos)).2 h
  exact if_pos hsize

/-- The increments of all events, in units, added up one after another as binary64 numbers. -/
def roundedSum (es : List Event) : Nat :=
  es.foldl (fun sum e => Number.nearestBinary64 (sum + Number.nearestBinary64 e.increment)) 0

theorem foldl_nearestBinary64 {es : List Event} {sum : Nat} (h : sum + incrementSum es < 2 ^ 53) :
    es.foldl (fun sum e => Number.nearestBinary64 (sum + Number.nearestBinary64 e.increment)) sum =
      sum + incrementSum es := by
  induction es generalizing sum with
  | nil => rfl
  | cons e es ih =>
    rw [incrementSum] at h
    rw [List.foldl_cons, nearestBinary64_of_lt (n := e.increment) (by omega),
      nearestBinary64_of_lt (by omega), ih (by omega), incrementSum, Nat.add_assoc]

theorem roundedSum_eq {es : List Event} (h : incrementSum es ≤ resolution) :
    roundedSum es = incrementSum es := by
  have hsmall : 0 + incrementSum es < 2 ^ 53 := by
    unfold resolution at h
    omega
  exact (foldl_nearestBinary64 hsmall).trans (Nat.zero_add _)

end ServerLauncher.Progress
