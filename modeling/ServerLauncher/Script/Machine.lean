import ServerLauncher.Files.Change
import ServerLauncher.Probe
import ServerLauncher.Script.Lexer
import ServerLauncher.Script.Pattern
import ServerLauncher.Text.Basic

/-!
The state of a running script: the file tree and the clock, its variables, where its output goes,
and what it has written so far. A script that is `aborted` ends as soon as the command at hand has
been read; `substituted` is the status of the last command whose output was put in. A `patient`
starter waits on when the script interrupts it.
-/

namespace ServerLauncher.Script

/-- Where an output stream goes. -/
inductive Sink where
  | nowhere
  | output
  | errors
  | pipe
  | file (k : Key)
  deriving DecidableEq, Repr

structure Variable where
  name : String
  value : String
  exported : Bool
  deriving DecidableEq, Repr

structure Machine where
  tree : Tree
  cwd : Key
  name : String
  args : List String := []
  vars : List Variable := []
  functions : List (String × Command) := []
  traps : List (String × String) := []
  status : Nat := 0
  substituted : Option Nat := none
  aborted : Bool := false
  loops : Nat := 0
  line : Nat := 1
  strict : Bool := false
  sinks : List (Nat × Sink) := [(1, .output), (2, .errors)]
  input : Bytes := []
  piped : Bytes := []
  output : Bytes := []
  errors : Bytes := []
  now : Nat := 0
  deadline : Option Nat := none
  patient : Bool := false
  interrupted : Bool := false

/-- What a command does to the commands after it. A script is `ended` from outside, or
its time is over; `raised` is a signal to the program that started it. -/
inductive Flow where
  | next
  | leave (levels : Nat)
  | again (levels : Nat)
  | back
  | exit
  | ended (e : Exit)
  | late
  | raised (signal : Nat)
  deriving DecidableEq, Repr

/-- The numbers by which a script knows itself and the program that started it. -/
def ownNumber : Nat := 4001
def parentNumber : Nat := 4000

namespace Machine

def get? (m : Machine) (name : String) : Option String :=
  (m.vars.find? (·.name == name)).map (·.value)

def set (m : Machine) (name value : String) : Machine :=
  if m.vars.any (·.name == name) then
    { m with vars := m.vars.map fun v => if v.name = name then { v with value } else v }
  else { m with vars := m.vars ++ [⟨name, value, false⟩] }

def exportName (m : Machine) (name : String) : Machine :=
  if m.vars.any (·.name == name) then
    { m with vars := m.vars.map fun v => if v.name = name then { v with exported := true } else v }
  else { m with vars := m.vars ++ [⟨name, "", true⟩] }

def unset (m : Machine) (name : String) : Machine :=
  { m with vars := m.vars.filter (·.name != name),
           functions := m.functions.filter (·.1 != name) }

/-- The variables that started programs see. -/
def environment (m : Machine) : List (String × String) :=
  (m.vars.filter (·.exported)).map fun v => (v.name, v.value)

def write (m : Machine) (number : Nat) (bytes : Bytes) : Machine :=
  match (m.sinks.lookup number).getD .nowhere with
  | .nowhere => m
  | .output => { m with output := m.output ++ bytes }
  | .errors => { m with errors := m.errors ++ bytes }
  | .pipe => { m with piped := m.piped ++ bytes }
  | .file k => { m with tree := m.tree.append k bytes }

def print (m : Machine) (text : String) : Machine :=
  m.write 1 (.ofText text)

/-- Complains about something on the error stream. -/
def complain (m : Machine) (text : String) (status : Nat) : Machine :=
  { m.write 2 (.ofText (m.name ++ ": " ++ toString m.line ++ ": " ++ text ++ "\n")) with status }

/-- Complains about something that no script survives. -/
def abort (m : Machine) (text : String) : Machine :=
  { m.complain text 2 with aborted := true }

def setSink (m : Machine) (number : Nat) (sink : Sink) : Machine :=
  { m with sinks := (number, sink) :: m.sinks.filter (·.1 != number) }

def succeed (m : Machine) (holds : Bool) : Machine :=
  { m with status := if holds then 0 else 1 }

/-- Lets time pass. Who waits for the script stops it when its time is over. -/
def sleep (m : Machine) (millis : Nat) : Machine × Flow :=
  match m.deadline with
  | some d =>
    if d ≤ m.now + millis then ({ m with now := d }, .late)
    else ({ m with now := m.now + millis, status := 0 }, .next)
  | none => ({ m with now := m.now + millis, status := 0 }, .next)

def hang (m : Machine) : Machine × Flow :=
  ({ m with now := m.deadline.getD m.now }, .late)

end Machine

end ServerLauncher.Script
