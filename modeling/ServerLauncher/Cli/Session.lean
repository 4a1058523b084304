import ServerLauncher.Cli.Bootstrap
import ServerLauncher.Cli.EnvFile
import ServerLauncher.Cli.Server

/-!
A whole run of the launcher: reading the command line, carrying out the command, and what is written
and answered in the end. What the system, the network, the user and the server do is given from
outside.
-/

namespace ServerLauncher.Cli

/-- What a run shows to the outside, and the servers that it has started. A run that a signal has
ended, or that never ends, has no exit code. -/
structure Showing where
  code : Option Nat
  output : Bytes
  errors : Bytes
  started : List ServerCommand := []
  killed : Bool := false
  deriving DecidableEq, Repr

def versionText : String := "prosemd-launch 0.1.0"

namespace Showing

def fail (K : ErrorKit) (f : Failure) : Showing :=
  let e := f.build K
  { code := some (K.exitCode e), output := [], errors := .ofText ("Error: " ++ K.print e ++ "\n") }

def cancelled : Showing :=
  { code := some cancelledExitCode, output := [], errors := .ofText "Server download cancelled\n" }

def print (text : String) : Showing :=
  { code := some 0, output := .ofText (text ++ "\n"), errors := [] }

/-- Shows something written to the error stream before. -/
def after (s : Showing) (errors : Bytes) : Showing :=
  { s with errors := errors ++ s.errors }

/-- What a refused command line shows; the wording of help and complaints is left to the terminal.
-/
def usage (f : UsageFault) : Showing :=
  match f with
  | .version => print versionText
  | _ => { code := some f.exitCode, output := [], errors := [] }

end Showing

/-- What reaches a run from elsewhere: how errors are passed on, how installed files answer a trial,
how the release store answers, what a started server does, what a message makes of the file tree that
is written through the handle of the log file opened at a place, what the messages of an acquisition
and its progress leave on the error stream, and so the start of a server, and when the user
interrupts. -/
structure Outside where
  errors : ErrorKit
  probe : Scene → Config → Probe
  respond : String → Response
  start : Scene → ServerCommand → Tree → Except FileError Process
  note : Key → Log.Message → Tree → Tree
  trace : Scene → Report → Bytes
  startTrace : Scene → ServerCommand → Bytes
  cancellation : Cancellation := {}
  tokenFirst : Bool := true

/-- What an acquisition tells a command: a failure, a path, or that it was cancelled. -/
def outcomeOf (r : Except AcquireError Acquisition) : Except Failure (Option String) :=
  match r with
  | .ok a => .ok a.path?
  | .error e => .error (.bare (.acquire e))

def showPath (K : ErrorKit) : Except Failure (Option String) → Showing
  | .error f => .fail K f
  | .ok none => .cancelled
  | .ok (some path) => .print path

/-- What is shown of a server after its start. Its exit code is passed on; a signal counts from 128
on. -/
def Process.show (p : Process) (K : ErrorKit) (command : ServerCommand) : Parting → Tree × Showing
  | .ended n exit =>
    let served (code : Nat) : Showing :=
      { code := some code, output := p.outputAt n, errors := p.errorsAt n, started := [command] }
    match exit with
    | .code code => (p.treeAt n, served code)
    | .signal signal => (p.treeAt n, served (128 + signal))
    | .lost e =>
      let told := Showing.fail K (.within "Failed to wait for the server process" (.bare (.file e)))
      (p.treeAt n, { told.after (p.errorsAt n) with
        output := p.outputAt n, started := [command] })
  | .interrupted n =>
    (p.treeAt n, {
      code := some cancelledExitCode, output := p.outputAt n, errors := p.errorsAt n,
      started := [command], killed := true })
  | .killed n =>
    (p.treeAt n, {
      code := none, output := p.outputAt n, errors := p.errorsAt n, started := [command] })
  | .never => (p.treeAt 0, { code := none, output := [], errors := [], started := [command] })

namespace Scene

def serve (s : Scene) (o : Outside) (args : List String) (w : Watch) (t : Tree) (path : String) :
    Tree × Showing :=
  let command := serverCommand path args
  let (t, showing) : Tree × Showing :=
    match o.start s command t with
    | .error e => (t, .fail o.errors (.within ("Failed to start " ++ path) (.bare (.file e))))
    | .ok p => p.show o.errors command (p.await (untilFired w) o.tokenFirst)
  (t, showing.after (o.startTrace s command))

/-- Runs the server, if there is one. -/
def handOver (s : Scene) (o : Outside) (args : List String) (w : Watch) (t : Tree) :
    Except Failure (Option String) → Tree × Showing
  | .error f => (t, .fail o.errors f)
  | .ok none => (t, .cancelled)
  | .ok (some path) => s.serve o args w t path

/-- Writes messages to the log file, if there is one. -/
def noting (o : Outside) (c : Context) : Log.Message → Tree → Tree :=
  match c.logFile with
  | some k => o.note k
  | none => Acquirer.unnoted

def report (s : Scene) (o : Outside) (c : Context) (t : Tree) : Report :=
  c.acquirer.ensureNoting (noting o c) (o.probe s c.acquirer.config) o.respond c.rootText c.tag
    (.start t o.cancellation true)

/-- The file that was tried has killed the launcher. -/
def wasKilled (r : Report) : Bool :=
  r.signal.any (· != interruptSignal)

/-- What a trial leaves that kills the launcher. -/
def tried (s : Scene) (o : Outside) (c : Context) (t : Tree) : Tree :=
  match c.acquirer.destination t c.rootText c.tag with
  | (t, .error _) => t
  | (t, .ok path) => (o.probe s c.acquirer.config t path).tree

/-- Acquires the server and lets a command go on with the outcome. -/
def acquire (s : Scene) (o : Outside) (c : Context) (t : Tree)
    (finish : Watch → Tree → Except Failure (Option String) → Tree × Showing) : Tree × Showing :=
  let r := s.report o c t
  if wasKilled r then (s.tried o c t, { code := none, output := [], errors := [] })
  else
    let (t, showing) := finish r.transfer.watch r.transfer.tree (outcomeOf r.result)
    (t, showing.after (o.trace s r))

def carryOut (s : Scene) (o : Outside) (c : Context) (t : Tree) : Command → Tree × Showing
  | .ensure => s.acquire o c t fun _ t r => (t, showPath o.errors r)
  | .run args => s.acquire o c t fun w t r => s.handOver o args w t r
  | .paths json =>
    match Locations.resolve c t with
    | (t, .error f) => (t, .fail o.errors f)
    | (t, .ok l) =>
      match if json then l.json else .ok l.text with
      | .error f => (t, .fail o.errors f)
      | .ok text => (t, .print text)

def dispatch (s : Scene) (o : Outside) (t : Tree) (i : Invocation) : Tree × Showing :=
  match Context.prepare s t i with
  | (t, .error f) => (t, .fail o.errors f)
  | (t, .ok c) => s.carryOut o c t i.command

/-- The scene with the variables of a file in the directory, as settings may be among them. -/
def settled (s : Scene) (t : Tree) : Scene :=
  { s with env := EnvFile.loadFrom s.env t s.workplace.key }

def launch (s : Scene) (o : Outside) (t : Tree) (args : List String) : Tree × Showing :=
  let s := s.settled t
  match parse s.env args with
  | .error f => (t, .usage f)
  | .ok i => s.dispatch o t i

end Scene

end ServerLauncher.Cli
