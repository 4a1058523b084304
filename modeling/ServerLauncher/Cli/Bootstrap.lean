import ServerLauncher.Acquire
import ServerLauncher.Cli.Usage
import ServerLauncher.Text.Basic
import ServerLauncher.Transport

/-!
From the settings of a command line to a ready acquirer, and the places that it works with. The
checks come in a fixed order: storage root, tag, log file, then the settings of the acquisition.
-/

namespace ServerLauncher.Cli

/-- Where a run takes place: the work directory, the variables, what the system calls itself, and the
directory that it knows for the data of the user. -/
structure Scene where
  workplace : Workplace
  env : Environment
  os : String
  dataDir : Environment → Option Bytes

structure Context where
  acquirer : Acquirer
  root : Bytes
  tag : Tag
  quiet : Bool
  logFile : Option Key

namespace Context

def rootOf (s : Scene) (t : Tree) (i : Invocation) : Except Failure Bytes :=
  match i.storageRoot with
  | some root => .ok root
  | none =>
    (Storage.default (s.dataDir s.env) s.env t s.workplace.key).mapError fun e => .bare (.path e)

def tagOf (i : Invocation) : Except Failure Tag :=
  (Release.tag i.tag).mapError fun e => .bare (.acquire e)

def configOf (i : Invocation) : Config :=
  match i.releaseUrl with
  | some releaseUrl => { releaseUrl }
  | none => { }

/-- Opens the log file, if there is one. It is made if it is missing. -/
def openLog (t : Tree) (cwd : Key) : Option String → Except Failure (Tree × Option Key)
  | none => .ok (t, none)
  | some path =>
    match t.openAppend cwd path with
    | .ok (t, k) => .ok (t, some k)
    | .error e => .error (.within ("Failed to open log file " ++ path) (.bare (.file e)))

/-- Prepares a command. The tree comes back in any case. -/
def prepare (s : Scene) (t : Tree) (i : Invocation) : Tree × Except Failure Context :=
  match rootOf s t i, tagOf i with
  | .error f, _ => (t, .error f)
  | .ok _, .error f => (t, .error f)
  | .ok root, .ok tag =>
    match openLog t s.workplace.key i.logFile with
    | .error f => (t, .error f)
    | .ok (t, logFile) =>
      let config := configOf i
      match Network.check config with
      | .error e => (t, .error (.bare (.acquire e)))
      | .ok () =>
        (t, .ok {
          acquirer := { config, host := HostOs.ofText? s.os, os := s.os, workplace := s.workplace },
          root, tag, quiet := i.quiet, logFile })

/-- The storage root as a text, by which files are looked up and paths are shown. -/
def rootText (c : Context) : String := Text.loose c.root

end Context

structure Locations where
  tag : String
  os : String
  root : Bytes
  destination : String
  url : Option String
  deriving DecidableEq, Repr

namespace Locations

/-- The locations for a command. The directory of the server is made. -/
def resolve (c : Context) (t : Tree) : Tree × Except Failure Locations :=
  match c.acquirer.destination t c.rootText c.tag with
  | (t, .error e) => (t, .error (.bare (.acquire e)))
  | (t, .ok destination) =>
    (t, .ok {
      tag := c.tag.text, os := c.acquirer.os, root := c.root, destination,
      url := (c.acquirer.url c.tag).toOption })

def rows (l : Locations) : List (String × String) :=
  [("tag", l.tag), ("os", l.os), ("storage_root", Text.loose l.root),
    ("destination", l.destination), ("url", l.url.getD "(unsupported platform)")]

def width : Nat := 12

def text (l : Locations) : String :=
  let row (r : String × String) : String :=
    r.1 ++ String.ofList (List.replicate (width - r.1.length) ' ') ++ " = " ++ r.2
  "\n".intercalate (l.rows.map row)

/-- Only a storage root that is a text can be written as JSON. -/
def json (l : Locations) : Except Failure String :=
  match Text.strict? l.root with
  | none => .error (.bare (.other "path contains invalid UTF-8 characters" []))
  | some root =>
    let values : List (String × String) :=
      [("tag", Text.json l.tag), ("os", Text.json l.os), ("storage_root", Text.json root),
        ("destination", Text.json l.destination), ("url", (l.url.map Text.json).getD "null")]
    let row (r : String × String) : String := "  " ++ Text.json r.1 ++ ": " ++ r.2
    .ok ("\x7b\n" ++ ",\n".intercalate (values.map row) ++ "\n\x7d")

end Locations

end ServerLauncher.Cli
