/-!
Progress of one transfer. A running count of bytes becomes a bounded number of events. Fractions
are counted in units of 2^-20, so the increments of all events add up to what was reported, exactly.
A count without a known total is shown in whole KiB below one MiB and with one decimal place of MiB
from there on, rounded from the nearest binary64 number with ties to even.
-/

namespace ServerLauncher.Number

/-- The integer nearest to `num / den`, the even one of two. -/
def roundQuotient (num den : Nat) : Nat :=
  let q := num / den
  let r := num % den
  if 2 * r < den then q else if den < 2 * r then q + 1 else q + q % 2

/-- The number nearest to `n` that has at most `bits` significant bits. -/
def roundToBits (bits n : Nat) : Nat :=
  let size := n.log2 + 1
  let unit := 1 <<< (size - bits)
  if size ≤ bits then n else roundQuotient n unit * unit

/-- The binary64 number nearest to a count. -/
def nearestBinary64 (n : Nat) : Nat :=
  roundToBits 53 n

end ServerLauncher.Number

namespace ServerLauncher.Size

def kib : Nat := 1024

def mib : Nat := 1048576

def text (bytes : Nat) : String :=
  let value := Number.nearestBinary64 bytes
  if mib ≤ value then
    let tenths := Number.roundQuotient (10 * value) mib
    toString (tenths / 10) ++ "." ++ toString (tenths % 10) ++ " MiB"
  else toString (Number.roundQuotient value kib) ++ " KiB"

end ServerLauncher.Size

namespace ServerLauncher.Progress

def resolution : Nat := 1048576

/-- The least time between two events of a transfer of unknown length, in nanoseconds. -/
def spacing : Nat := 100000000

/-- One update: a text, and how many units were completed since the last one. -/
structure Event where
  message : String
  increment : Nat
  deriving DecidableEq, Repr

/-- What has been reported of a transfer. -/
structure Tracker where
  total : Option Nat
  units : Nat := 0
  percent : Nat := 0
  lastShown : Option Nat := none
  deriving DecidableEq, Repr

namespace Tracker

def start (total : Option Nat) : Tracker := { total }

/-- The share of the transfer that a count is, at most the whole. Nothing is all of nothing. -/
def unitsFor (received total : Nat) : Nat :=
  if total = 0 then resolution else min (received * resolution / total) resolution

def percentOf (units : Nat) : Nat := units * 100 / resolution

/-- Reports a share that is larger than the one reported before. -/
def report (t : Tracker) (units percent : Nat) : Tracker × Event :=
  ({ t with units, percent }, ⟨toString percent ++ "%", units - t.units⟩)

/-- An event of a transfer of unknown length may be shown at the time `now`. -/
def isDue (t : Tracker) (now : Nat) : Bool :=
  match t.lastShown with
  | some last => spacing ≤ now - last
  | none => true

/-- A count of bytes has arrived in total. With a known length an event is due when the whole
percentage rises, else when enough time has passed. -/
def advance (t : Tracker) (now received : Nat) : Tracker × Option Event :=
  match t.total with
  | some total =>
    let units := unitsFor received total
    let percent := percentOf units
    if percent ≤ t.percent ∨ units ≤ t.units then (t, none)
    else
      let (t', e) := t.report units percent
      (t', some e)
  | none =>
    if t.isDue now then ({ t with lastShown := some now }, some ⟨Size.text received, 0⟩)
    else (t, none)

def finish (t : Tracker) (received : Nat) : Tracker × Option Event :=
  match t.total with
  | some _ =>
    if t.units < resolution then
      let (t', e) := t.report resolution 100
      (t', some e)
    else (t, none)
  | none => (t, some ⟨Size.text received ++ " (complete)", 0⟩)

end Tracker

end ServerLauncher.Progress
