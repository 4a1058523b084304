/-!
Labels of domain names in ASCII: the ASCII characters of a label, and after the last hyphen where
the other characters stand, as numbers of variable length in base 36.
-/

namespace ServerLauncher.Url.Punycode

def digit? (c : Char) : Option Nat :=
  if 'a' ≤ c ∧ c ≤ 'z' then some (c.toNat - 97)
  else if 'A' ≤ c ∧ c ≤ 'Z' then some (c.toNat - 65)
  else if '0' ≤ c ∧ c ≤ '9' then some (c.toNat - 22)
  else none

def digitChar (n : Nat) : Char :=
  if n < 26 then Char.ofNat (97 + n) else Char.ofNat (22 + n)

/-- Takes a difference down until it is small, and counts 36 for every step. -/
def scale : Nat → Nat → Nat → Nat
  | 0, _, k => k
  | fuel + 1, delta, k => if 455 < delta then scale fuel (delta / 35) (k + 36)
    else k + 36 * delta / (delta + 38)

def adapt (delta count : Nat) (first : Bool) : Nat :=
  let d := if first then delta / 700 else delta / 2
  scale 64 (d + d / count) 0

def threshold (k bias : Nat) : Nat :=
  if k ≤ bias then 1 else if bias + 26 ≤ k then 26 else k - bias

/-- One number: its value added to `i`, and the characters after it. -/
def number? (bias : Nat) : (k weight i : Nat) → List Char → Option (Nat × List Char)
  | _, _, _, [] => none
  | k, weight, i, c :: rest =>
    match digit? c with
    | none => none
    | some d =>
      let i := i + d * weight
      if 0xFFFFFFFF < i then none
      else
        let t := threshold k bias
        if d < t then some (i, rest) else number? bias (k + 36) (weight * (36 - t)) i rest

def insertAt (i : Nat) (c : Char) (cs : List Char) : List Char :=
  cs.take i ++ c :: cs.drop i

/-- Places the characters named by the numbers. Each number takes at least one character. -/
def place? : Nat → (n i bias : Nat) → List Char → List Char → Option (List Char)
  | _, _, _, _, out, [] => some out
  | 0, _, _, _, _, _ => none
  | fuel + 1, n, i, bias, out, cs =>
    match number? bias 36 1 i cs with
    | none => none
    | some (next, rest) =>
      let size := out.length + 1
      let point := n + next / size
      let spot := next % size
      if 0x10FFFF < point ∨ (0xD800 ≤ point ∧ point ≤ 0xDFFF) then none
      else place? fuel point (spot + 1) (adapt (next - i) size (i == 0))
        (insertAt spot (Char.ofNat point) out) rest

/-- The parts before and after the last hyphen. -/
def splitLastHyphen (cs : List Char) : List Char × List Char :=
  if cs.contains '-' then
    let tail := (cs.reverse.takeWhile (· != '-')).reverse
    (cs.take (cs.length - tail.length - 1), tail)
  else ([], cs)

def decode? (cs : List Char) : Option (List Char) :=
  let (basic, extended) := splitLastHyphen cs
  place? extended.length 128 0 72 basic extended

def writeNumber (bias : Nat) : Nat → (k q : Nat) → List Char
  | 0, _, _ => []
  | fuel + 1, k, q =>
    let t := threshold k bias
    if q < t then [digitChar q]
    else digitChar (t + (q - t) % (36 - t)) :: writeNumber bias fuel (k + 36) ((q - t) / (36 - t))

structure Writer where
  delta : Nat
  bias : Nat
  handled : Nat
  out : List Char

/-- Writes the places of one code point. -/
def writePoint (basic n : Nat) (w : Writer) (c : Char) : Writer :=
  if c.toNat < n then { w with delta := w.delta + 1 }
  else if c.toNat = n then
    { delta := 0, bias := adapt w.delta (w.handled + 1) (w.handled == basic),
      handled := w.handled + 1, out := w.out ++ writeNumber w.bias 64 36 w.delta }
  else w

def encodeLoop (cs : List Char) (basic : Nat) : Nat → Nat → Writer → List Char
  | 0, _, w => w.out
  | fuel + 1, n, w =>
    match ((cs.map Char.toNat).filter (n ≤ ·)).min? with
    | none => w.out
    | some m =>
      let started := { w with delta := w.delta + (m - n) * (w.handled + 1) }
      let written := cs.foldl (writePoint basic m) started
      encodeLoop cs basic fuel (m + 1) { written with delta := written.delta + 1 }

def encode (cs : List Char) : List Char :=
  let basic := cs.filter (·.toNat < 128)
  let start := if basic.isEmpty then [] else basic ++ ['-']
  encodeLoop cs basic.length cs.length 128 ⟨0, 72, basic.length, start⟩

end ServerLauncher.Url.Punycode
