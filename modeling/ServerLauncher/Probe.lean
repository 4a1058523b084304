import ServerLauncher.Config
import ServerLauncher.Files.Tree

/-!
Trying a file: it is looked up, started with an argument and waited for. A file that somebody still
writes to cannot be started, so such a start is tried again a few times, with longer and longer
pauses. Every way of failing is a verdict.
-/

namespace ServerLauncher

inductive Verdict where
  | valid
  | missing
  | notAFile
  | notExecutable
  | exitedWith (code : Option Int)
  | spawnFailed (reason : String)
  | timedOut (after : Duration)
  deriving DecidableEq, Repr

namespace Verdict

def isValid : Verdict → Bool
  | valid => true
  | _ => false

def text : Verdict → String
  | valid => "valid"
  | missing => "missing"
  | notAFile => "not a regular file"
  | notExecutable => "not executable"
  | exitedWith (some code) => "exited with status " ++ toString code
  | exitedWith none => "terminated by signal"
  | spawnFailed reason => "failed to start: " ++ reason
  | timedOut after => "did not exit within " ++ after.text

end Verdict

/-- How a started program ended, or why that cannot be told. -/
inductive Exit where
  | code (n : Nat)
  | signal (n : Nat)
  | lost (error : FileError)
  deriving DecidableEq, Repr

namespace Probe

/-- The number of starts after the first one. -/
def retries : Nat := 5

/-- The milliseconds before the retry with number `k`, counted from one. -/
def pause (k : Nat) : Nat := 20 * k

/-- The time of the start with number `k`, counted from zero. -/
def startTime : Nat → Nat
  | 0 => 0
  | k + 1 => startTime k + pause (k + 1)

/-- What the system answers while a file is tried. A start answers nothing if it succeeds; the wait
for the program answers after some milliseconds, if ever. -/
structure Answers where
  lookup : Except FileError Entry
  start : Nat → Option FileError
  wait : Option (Nat × Exit)

def isBusy (answer : Option FileError) : Bool :=
  answer.bind FileError.osError? == some .textBusy

/-- What starting a file comes to: the times of all starts in milliseconds, and the answer to the
last one. -/
structure Launch where
  times : List Nat
  answer : Option FileError
  deriving DecidableEq, Repr

/-- Starts a file at the time `now`, from the start with number `k` on. While it is busy and there
are retries to spare, it is started again after a pause. -/
def launch (start : Nat → Option FileError) : (left k now : Nat) → Launch
  | 0, k, now => ⟨[now], start k⟩
  | left + 1, k, now =>
    if isBusy (start k) then
      let later := launch start left (k + 1) (now + pause (k + 1))
      { later with times := now :: later.times }
    else ⟨[now], start k⟩

/-- Somebody may run the file. -/
def hasRunBit (mode : Nat) : Bool :=
  mode &&& 0o111 != 0

namespace Answers

/-- What starting the file comes to, if it is started at all. -/
def launch? (a : Answers) : Option Launch :=
  match a.lookup with
  | .ok (.file mode _) => if hasRunBit mode then some (launch a.start retries 0 0) else none
  | _ => none

def startTimes (a : Answers) : List Nat :=
  match a.launch? with
  | some l => l.times
  | none => []

/-- The system refuses to run the file. -/
def isDenied (e : FileError) : Bool :=
  e.osError? == some .denied || e.osError? == some .notPermitted

/-- What the end of a program says of its file. -/
def exitVerdict : Exit → Verdict
  | .code 0 => .valid
  | .code n => .exitedWith (some n)
  | .signal _ => .exitedWith none
  | .lost e => .spawnFailed e.text

/-- What the wait for a program says of its file. An answer that comes just at the limit counts. -/
def waitVerdict (limit : Duration) : Option (Nat × Exit) → Verdict
  | some (millis, exit) => if millis ≤ limit.millis then exitVerdict exit else .timedOut limit
  | none => .timedOut limit

/-- What the deciding start and the wait for the program say of the file. -/
def startVerdict (limit : Duration) (wait : Option (Nat × Exit)) : Option FileError → Verdict
  | some e => if isDenied e then .notExecutable else .spawnFailed e.text
  | none => waitVerdict limit wait

def verdict (limit : Duration) (a : Answers) : Verdict :=
  match a.lookup with
  | .error e => if e.osError? = some .noEntry then .missing else .spawnFailed e.text
  | .ok (.file mode _) =>
    if hasRunBit mode then startVerdict limit a.wait (launch a.start retries 0 0).answer
    else .notExecutable
  | .ok _ => .notAFile

end Answers

/-- What a trial of a file leaves behind: its verdict, the file tree, the milliseconds it took, and
the signal that the file sent to the one who tried it. -/
structure Outcome where
  verdict : Verdict
  tree : Tree
  elapsed : Nat := 0
  signal : Option Nat := none

end Probe

/-- A way to try the file at a path. -/
abbrev Probe := Tree → String → Probe.Outcome

/-- Says the same of every file, without looking at it. -/
def Probe.always (verdict : Verdict) : Probe :=
  fun t _ => { verdict, tree := t }

end ServerLauncher
