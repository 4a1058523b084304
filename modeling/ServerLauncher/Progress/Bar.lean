import ServerLauncher.Progress.Tracker

/-!
The bar on a terminal. It starts as a spinner and becomes a bar of a thousand steps with the first
increment that is not zero. Fractions are exact units of a transfer, or binary64 numbers.
-/

namespace ServerLauncher.Progress

def barSteps : Nat := 1000

/-- What a bar needs to know of its fractions. -/
class Gauge (α : Type) where
  zero : α
  isPositive : α → Bool
  /-- The sum of a fraction and an increment, which counts as zero if negative; at most one. -/
  raise : α → α → α
  /-- The nearest step, a half going up. -/
  step : α → Nat

/-- A count of units of 2^-20. -/
structure Units where
  count : Nat
  deriving DecidableEq, Repr

instance : Gauge Units where
  zero := ⟨0⟩
  isPositive u := 0 < u.count
  raise f u := ⟨min (f.count + u.count) resolution⟩
  step f := (2 * f.count * barSteps + resolution) / (2 * resolution)

/-- A count of units as a fraction of the whole. -/
def Units.toFloat (u : Units) : Float :=
  u.count.toFloat / resolution.toFloat

/-- The increment of an event as it is passed on. -/
def Event.fraction (e : Event) : Float := Units.toFloat ⟨e.increment⟩

/-- The share of the transfer that a tracker has reported. -/
def Tracker.reportedFraction (t : Tracker) : Float := Units.toFloat ⟨t.units⟩

instance : Gauge Float where
  zero := 0
  isPositive x := x > 0
  raise f x :=
    let sum := f + (if x > 0 then x else 0)
    if sum < 1 then sum else 1
  step f :=
    -- Half steps are counted, so that the last one goes up.
    let scaled := f * barSteps.toFloat
    ((scaled + scaled).toUInt64.toNat + 1) / 2

inductive Shape where
  | spinner
  | steps
  deriving DecidableEq, Repr

/-- What stands on the terminal, and the step that it has come to. -/
structure Display where
  shape : Shape
  mark : Nat
  deriving DecidableEq, Repr

/-- Something is shown or not; `determinate` says whether there ever was a fraction to show. -/
structure Bar (α : Type) where
  display : Option Display
  determinate : Bool
  fraction : α
  deriving DecidableEq, Repr

namespace Bar

variable {α : Type} [Gauge α]

def start : Bar α := ⟨none, false, Gauge.zero⟩

/-- Takes an increment. The first positive one puts steps in the place of a spinner; if nothing is
shown a spinner comes up. -/
def report (b : Bar α) (increment : α) : Bar α :=
  let begins := Gauge.isPositive increment && !b.determinate
  let display := if begins then ⟨.steps, 0⟩ else b.display.getD ⟨.spinner, 0⟩
  let determinate := b.determinate || begins
  let fraction := Gauge.raise b.fraction increment
  let mark := if determinate then min (Gauge.step fraction) barSteps else display.mark
  { display := some { display with mark }, determinate, fraction }

def close (b : Bar α) : Bar α :=
  { b with display := none }

/-- The step that has been come to, if something is shown and there was a fraction. -/
def position (b : Bar α) : Option Nat :=
  if b.determinate then b.display.map Display.mark else none

end Bar

end ServerLauncher.Progress
