import ServerLauncher.Files.Tree
import ServerLauncher.Probe
import ServerLauncher.Transport

/-!
Starting an installed server with the streams of the launcher, and waiting for it. The launcher is
interrupted if its token fires before the server is over.
-/

namespace ServerLauncher.Cli

/-- How a server is started: its file, its arguments, and the variables set for it. -/
structure ServerCommand where
  program : String
  args : List String
  env : List (String × String)
  deriving DecidableEq, Repr

/-- The arguments of a server that is given none. -/
def defaultServerArgs : List String := ["--stdio"]

/-- Arguments are passed on as they are. A server logs only warnings. -/
def serverCommand (path : String) (args : List String) : ServerCommand where
  program := path
  args := if args = [] then defaultServerArgs else args
  env := [("RUST_LOG", "warn")]

/-- A started server as its launcher sees it: the file tree and what it has written some milliseconds
after its start, when and how the wait for it answers, and the signal that it sends to its launcher
before that. -/
structure Process where
  treeAt : Nat → Tree
  outputAt : Nat → Bytes
  errorsAt : Nat → Bytes
  ended : Option (Nat × Exit)
  signal : Option (Nat × Nat) := none

/-- How a launcher comes away from its server. -/
inductive Parting where
  | ended (millis : Nat) (exit : Exit)
  | interrupted (millis : Nat)
  | killed (millis : Nat)
  | never
  deriving DecidableEq, Repr

/-- The signal that interrupts a program; the others end it. -/
def interruptSignal : Nat := 2

namespace Process

/-- The time of a signal of one of the two kinds. -/
def signalTime (p : Process) (interrupts : Bool) : Option Nat :=
  (p.signal.filter fun s => (s.2 == interruptSignal) == interrupts).map (·.1)

/-- The time at which the token fires, by itself at the time `fires` or by a signal. -/
def cutTime (p : Process) (fires : Option Nat) : Option Nat :=
  match fires, p.signalTime true with
  | some a, some b => some (min a b)
  | some a, none => some a
  | none, b => b

/-- The end of a server or the token, whichever comes first. Where the token fires just as the server
is over, either may be noticed. -/
def firstEvent (p : Process) (fires : Option Nat) (tokenFirst : Bool) : Parting :=
  match p.ended, p.cutTime fires with
  | some (n, exit), some c => if c < n ∨ c = n ∧ tokenFirst then .interrupted c else .ended n exit
  | some (n, exit), none => .ended n exit
  | none, some c => .interrupted c
  | none, none => .never

/-- Waits for a server, unless it has killed its launcher before. -/
def await (p : Process) (fires : Option Nat) (tokenFirst : Bool) : Parting :=
  match p.signalTime false with
  | some d =>
    if (p.cutTime fires).any (· ≤ d) || p.ended.any (·.1 ≤ d) then p.firstEvent fires tokenFirst
    else .killed d
  | none => p.firstEvent fires tokenFirst

end Process

/-- When the token fires, counted from now. -/
def untilFired (w : Watch) : Option Nat :=
  if w.fired then some 0 else w.fireAt.map (· - w.now)

end ServerLauncher.Cli
