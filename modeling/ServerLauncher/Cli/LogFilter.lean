import ServerLauncher.Log
import ServerLauncher.Text.Ranges

/-!
Which log messages are shown. A filter is a list of directives between commas: a level for all
messages, or a name with a level for the messages whose origin starts with that name. The longest
name that fits decides.
-/

namespace ServerLauncher.Cli

/-- Lower numbers are more urgent; zero shows nothing. -/
def urgency : Level → Nat
  | .error => 1
  | .warn => 2
  | .info => 3

structure Directive where
  origin : Option (List Char)
  bound : Nat
  deriving DecidableEq, Repr

abbrev LogFilter := List Directive

namespace LogFilter

def ownOrigin : List Char := "prosemd".toList

def levelNames : List (String × Nat) :=
  [("off", 0), ("error", 1), ("warn", 2), ("info", 3), ("debug", 4), ("trace", 5)]

def everything : Nat := 5

/-- A level by its number or by its name in any case. -/
def bound? (cs : List Char) : Option Nat :=
  let digits := if cs.head? = some '+' then cs.drop 1 else cs
  if cs = [] then some 1
  else if digits ≠ [] ∧ digits.all Char.isDigit then
    let n := digits.foldl (fun n c => 10 * n + (c.toNat - 48)) 0
    if n ≤ everything then some n else none
  else levelNames.lookup (String.ofList (cs.map Char.toLower))

/-- A directive about a span of time, which no message of this program lies in. -/
def spanDirective? (cs : List Char) : Option Unit :=
  match (cs.dropWhile (· != ']')).drop 1 with
  | [] => if cs.contains ']' then some () else none
  | '=' :: level => if level = [] then some () else (bound? level).map fun _ => ()
  | _ => none

def isStart (c : Char) : Bool :=
  c == '-' || c == ':' || c == '_' || c.isAlphanum || 0x80 ≤ c.toNat

/-- Reads one directive; it may turn out to concern no message at all. -/
def directive? (cs : List Char) : Option (Option Directive) :=
  match cs.dropWhile (· == ' ') with
  | [] => none
  | '[' :: rest => (spanDirective? rest).map fun _ => none
  | c :: _ =>
    if isStart c then
      let origin := cs.takeWhile fun c => c != '=' && c != '['
      match cs.dropWhile fun c => c != '=' && c != '[' with
      | '[' :: rest => (spanDirective? rest).map fun _ => none
      | '=' :: level =>
        (if level = [] then some everything else bound? level).map fun n => some ⟨some origin, n⟩
      | _ =>
        match bound? cs with
        | some n => some (some ⟨none, n⟩)
        | none => some (some ⟨some cs, everything⟩)
    else none

/-- Reads a filter. Without any directive only errors are shown. -/
def ofText? (text : String) : Option LogFilter := do
  let pieces := (Text.splitOn ',' text.toList).filter (· ≠ [])
  let directives ← pieces.mapM directive?
  if directives = [] then return [⟨none, 1⟩]
  else return directives.filterMap id

def default : LogFilter := [⟨none, 2⟩]

/-- The filter that a variable of the environment sets, if it is one. -/
def ofVariable (value : Option String) : LogFilter :=
  (value.bind ofText?).getD default

def Directive.weight (d : Directive) : Nat :=
  (d.origin.map (·.length + 1)).getD 0

/-- The directive that decides; of two about the same origin, the later one. -/
def deciding? (f : LogFilter) : Option Directive :=
  let fitting := f.filter fun d => (d.origin.map (·.isPrefixOf ownOrigin)).getD true
  fitting.foldl (fun best d =>
    if best.any (Directive.weight d < Directive.weight ·) then best else some d) none

def shows (f : LogFilter) (l : Level) : Bool :=
  f.deciding?.any (urgency l ≤ ·.bound)

end LogFilter

end ServerLauncher.Cli
