import ServerLauncher.Cli.LogFilter
import ServerLauncher.Cli.Session
import ServerLauncher.Files.Staged
import ServerLauncher.Script.Run
import ServerLauncher.Script.Utility
import ServerLauncher.Storage

/-!
A host to run the launcher on: a few directories, the programs that scripts may call, and devices.
Files are tried with empty input, and all their output is dropped; a file that runs may change the
file tree until its time is over. No other host can be reached, and nobody interrupts.
-/

namespace ServerLauncher.Host

/-- The key of an entry by its names from the root down. -/
def key (names : List String) : Key := names.reverse

def workKey : Key := key ["tmp", "work"]

def directories : List Key :=
  [[], key ["usr"], Script.programDir, key ["dev"], key ["etc"], key ["home"], key ["proc"],
    key ["root"], key ["sys"], key ["tmp"], key ["var"], workKey]

/-- A program of the host cannot be told from others by its content. -/
def programs : List (Key × Entry) :=
  Script.programNames.map fun name =>
    (name :: Script.programDir, .file 0o755 [0x7F, 0x45, 0x4C, 0x46])

def devices : List (Key × Entry) :=
  ["null", "zero", "full"].map fun name => (name :: key ["dev"], .file 0o666 [])

def readOnly : OsError := ⟨30⟩

def tree : Tree where
  entries :=
    directories.map (fun k => (k, .dir)) ++ [(key ["bin"], .link "usr/bin")] ++ programs ++
      devices ++ [(key ["etc", "passwd"], .file 0o644 [])]
  sealed := [(key ["proc"], .noEntry), (key ["sys"], readOnly)]

def workplace (text : String) : Workplace := ⟨workKey, text⟩

/-- A script at its start. -/
def machine (t : Tree) (w : Workplace) (env : Environment) : Script.Machine :=
  { tree := t, cwd := w.key, name := "sh",
    vars := env.texts.map (fun p => ⟨p.1, p.2, true⟩) ++ [⟨"PWD", w.text, true⟩] }

/-- How a file is tried: the argument, the time it gets, and for how long somebody else still has it
open for writing. -/
structure Trial where
  arg : String
  limit : Duration
  busyMillis : Option Nat := none

namespace Trial

/-- The file is still open for writing when the start with number `k` happens. -/
def isBusy (r : Trial) (k : Nat) : Bool :=
  r.busyMillis.any (Probe.startTime k < ·)

/-- What the start with number `k` answers, given what the system makes of the file. -/
def startAnswer (r : Trial) (loaded : Except FileError (String × List String)) (k : Nat) :
    Option FileError :=
  if r.arg.toList.contains '\x00' then some .nulInArgument
  else
    match loaded with
    | .ok _ => if r.isBusy k then some (.os .textBusy) else none
    | .error e => if e = .os .execFormat && r.isBusy k then some (.os .textBusy) else some e

/-- Runs what the system has loaded for as long as the trial allows. -/
def run (r : Trial) (w : Workplace) (env : Environment) (t : Tree) (name : String)
    (args : List String) : Script.Machine × Option Exit × Option Nat :=
  Script.start name args { machine t w env with
    sinks := [(1, .nowhere), (2, .nowhere)], deadline := some r.limit.millis, patient := true }

end Trial

def tryFile (r : Trial) (w : Workplace) (env : Environment) (t : Tree) (path : String) :
    Probe.Outcome :=
  let loaded := Script.load t w.key (Script.resolve path) [r.arg]
  let before : Probe.Answers := ⟨t.stat w.key path, r.startAnswer loaded, none⟩
  let passed := before.startTimes.getLastD 0
  match before.launch?, loaded with
  | some l, .ok (name, args) =>
    if l.answer = none then
      let (m, exit, signal) := r.run w env t name args
      ⟨{ before with wait := exit.map (m.now, ·) }.verdict r.limit, m.tree, passed + m.now, signal⟩
    else ⟨before.verdict r.limit, t, passed, none⟩
  | _, _ => ⟨before.verdict r.limit, t, passed, none⟩

/-- Runs a server to its end, or until it signals its launcher. -/
def serve (s : Cli.Scene) (c : Cli.ServerCommand) (t : Tree) : Except FileError Cli.Process :=
  let w := s.workplace
  if c.args.any (·.toList.contains '\x00') then .error .nulInArgument
  else
    match Script.load t w.key (Script.resolve c.program) c.args with
    | .error e => .error e
    | .ok (name, args) =>
      let env := c.env.foldl (fun env v => env.set v.1 (.ofText v.2)) s.env
      let (m, exit, signal) := Script.start name args (machine t w env)
      .ok {
        treeAt := fun _ => m.tree, outputAt := fun _ => m.output, errorsAt := fun _ => m.errors,
        ended := if signal.isSome then none else exit.map (m.now, ·),
        signal := signal.map (m.now, ·) }

/-- A message as it is shown on the error stream, its level at the right of five columns. -/
def traceLine (stamp : String) (m : Log.Message) : String :=
  let label := m.level.label
  stamp ++ " " ++ String.ofList (List.replicate (5 - label.length) ' ') ++ label ++ " prosemd: " ++
    m.text ++ "\n"

/-- The messages that the filter lets through, without colours. -/
def trace (stamp : String) (s : Cli.Scene) (r : Report) : Bytes :=
  let filter := Cli.LogFilter.ofVariable (s.env.text? "RUST_LOG")
  .ofText (String.join ((r.log.filter (filter.shows ·.level)).map (traceLine stamp)))

def os : String := "linux"

def scene (w : Workplace) (env : Environment) : Cli.Scene :=
  ⟨w, env, os, Storage.userData (some (.ofText "/root"))⟩

/-- All lines are written at the same time. -/
def outside (stamp : String) : Cli.Outside where
  errors := .plain
  probe s c := tryFile { arg := c.probeArg, limit := c.probeTimeout } s.workplace s.env
  respond := Network.respond
  start := serve
  note k m t := t.append k (.ofText (m.line stamp))
  trace := trace stamp
  startTrace _ _ := []

end ServerLauncher.Host
