import ServerLauncher.Download
import ServerLauncher.Log
import ServerLauncher.Probe
import ServerLauncher.Release

/-!
Acquiring a server: one that is installed and runs is used as it is, any other is downloaded anew,
at most once and without another trial.
-/

namespace ServerLauncher

/-- A server for a tag, or the news that its download was cancelled. -/
inductive Acquisition where
  | cached (path : String)
  | downloaded (path : String)
  | cancelled
  deriving DecidableEq, Repr

namespace Acquisition

def path? : Acquisition → Option String
  | cached path => some path
  | downloaded path => some path
  | cancelled => none

def isCancelled : Acquisition → Bool
  | cancelled => true
  | _ => false

end Acquisition

/-- Settings, the host that servers are acquired for, if it is a known one, and what the system calls
itself. -/
structure Acquirer where
  config : Config
  host : Option HostOs
  os : String := (host.map HostOs.name).getD ""
  workplace : Workplace

/-- One call: what it answers, what can be seen of it, what it logs, which paths it tries, and the
signal that a file has sent when it was tried. -/
structure Report where
  result : Except AcquireError Acquisition
  transfer : Transfer
  log : List Log.Message := []
  probed : List String := []
  signal : Option Nat := none

namespace Acquirer

def extension (a : Acquirer) : String :=
  (a.host.map HostOs.executableExtension).getD ""

/-- The build for the host. An unknown host is called as it calls itself. -/
def build (a : Acquirer) : Except AcquireError Build :=
  match a.host with
  | none => .error (.unsupportedPlatform a.os)
  | some os => Release.build os

def destination (a : Acquirer) (t : Tree) (root : String) (tag : Tag) :
    Tree × Except AcquireError String :=
  Release.destination t a.workplace.key root a.config.artifact tag a.extension

def url (a : Acquirer) (tag : Tag) : Except AcquireError String :=
  a.build.map fun b => Release.url a.config.releaseUrl a.config.artifact tag b

def title (a : Acquirer) : Progress.Event :=
  ⟨"Downloading " ++ a.config.artifact ++ " server", 0⟩

/-- The remark on a server that is there and does not run. -/
def unusable (path : String) (v : Verdict) : List Log.Message :=
  if v = .missing then []
  else
    [⟨.warn, "Installed server at " ++ path ++ " is unusable (" ++ v.text ++
      "); downloading a fresh copy"⟩]

/-- What is said and answered at the end of a download. -/
def conclude (url path : String) : Ending → Log.Message × Except AcquireError Acquisition
  | .completed bytes =>
    (⟨.info, "Installed " ++ toString bytes ++ " bytes to " ++ path⟩, .ok (.downloaded path))
  | .cancelled => (⟨.warn, "Server download cancelled"⟩, .ok .cancelled)
  | .failed e =>
    (⟨.error, "Failed to download server from " ++ url ++ ": " ++ e.message⟩, .error e)

/-- Writes messages down, one after another. -/
def jot (note : Log.Message → Tree → Tree) (ms : List Log.Message) (s : Transfer) : Transfer :=
  { s with tree := ms.foldl (fun t m => note m t) s.tree }

/-- Downloads the server for a tag to a path. Every message is written down when it comes up. -/
def fetchNoting (a : Acquirer) (note : Log.Message → Tree → Tree) (respond : String → Response)
    (tag : Tag) (path : String) (s : Transfer) : Report :=
  match a.url tag with
  | .error e => { result := .error e, transfer := s }
  | .ok url =>
    let job : Download.Job := ⟨a.workplace, url, path, a.config.stallTimeout⟩
    let first : Log.Message := ⟨.info, "Server URL: " ++ url⟩
    let s := (jot note [first] s).report a.title
    let (s, ending) := Download.run job (respond url) s
    let (last, result) := conclude url path ending
    { result, transfer := jot note [last] s, log := [first, last] }

/-- What a trial has done to the call meanwhile. An interruption fires the token. -/
def afterTrial (s : Transfer) (o : Probe.Outcome) : Transfer :=
  let watch := s.watch.spend o.elapsed
  { s with tree := o.tree, watch := if o.signal = some 2 then watch.fire else watch }

/-- Makes sure that a server for a tag is installed. Every message is written down when it comes
up. -/
def ensureNoting (a : Acquirer) (note : Log.Message → Tree → Tree) (probe : Probe)
    (respond : String → Response) (root : String) (tag : Tag) (s : Transfer) : Report :=
  match a.destination s.tree root tag with
  | (t, .error e) => { result := .error e, transfer := { s with tree := t } }
  | (t, .ok path) =>
    let o := probe t path
    let s := afterTrial s o
    if o.verdict.isValid then
      let used : Log.Message := ⟨.info, "Using installed server: " ++ path⟩
      { result := .ok (.cached path), transfer := jot note [used] s, probed := [path],
        signal := o.signal, log := [used] }
    else
      let warned := unusable path o.verdict
      let r := a.fetchNoting note respond tag path (jot note warned s)
      { r with log := warned ++ r.log, probed := [path], signal := o.signal }

/-- Messages that leave no trace in the file tree. -/
def unnoted (_ : Log.Message) (t : Tree) : Tree := t

def fetch (a : Acquirer) (respond : String → Response) (tag : Tag) (path : String)
    (s : Transfer) : Report :=
  a.fetchNoting unnoted respond tag path s

def ensure (a : Acquirer) (probe : Probe) (respond : String → Response) (root : String) (tag : Tag)
    (s : Transfer) : Report :=
  a.ensureNoting unnoted probe respond root tag s

@[simp]
theorem jot_unnoted (ms : List Log.Message) (s : Transfer) : jot unnoted ms s = s := by
  have hsame : ∀ t : Tree, ms.foldl (fun t m => unnoted m t) t = t := by
    induction ms with
    | nil => exact fun _ => rfl
    | cons m ms ih => exact ih
  exact congrArg (fun t => { s with tree := t }) (hsame s.tree)

theorem fetch_def (a : Acquirer) (respond : String → Response) (tag : Tag) (path : String)
    (s : Transfer) :
    a.fetch respond tag path s =
      match a.url tag with
      | .error e => { result := .error e, transfer := s }
      | .ok url =>
        let job : Download.Job := ⟨a.workplace, url, path, a.config.stallTimeout⟩
        let (s, ending) := Download.run job (respond url) (s.report a.title)
        let (last, result) := conclude url path ending
        { result, transfer := s, log := [⟨.info, "Server URL: " ++ url⟩, last] } := by
  unfold fetch fetchNoting
  simp only [jot_unnoted]

theorem ensure_def (a : Acquirer) (probe : Probe) (respond : String → Response) (root : String)
    (tag : Tag) (s : Transfer) :
    a.ensure probe respond root tag s =
      match a.destination s.tree root tag with
      | (t, .error e) => { result := .error e, transfer := { s with tree := t } }
      | (t, .ok path) =>
        let o := probe t path
        let s := afterTrial s o
        if o.verdict.isValid then
          { result := .ok (.cached path), transfer := s, probed := [path], signal := o.signal,
            log := [⟨.info, "Using installed server: " ++ path⟩] }
        else
          let r := a.fetch respond tag path s
          { r with
            log := unusable path o.verdict ++ r.log, probed := [path], signal := o.signal } := by
  unfold ensure ensureNoting
  simp only [jot_unnoted]
  rfl

def ensureDefault (a : Acquirer) (probe : Probe) (respond : String → Response) (root : String)
    (tag : Tag) (t : Tree) (paced : Bool) : Report :=
  let r := a.ensure probe respond root tag (.start t {} paced)
  { r with transfer := { r.transfer with events := [] } }

end Acquirer

end ServerLauncher
