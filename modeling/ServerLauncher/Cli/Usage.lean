import ServerLauncher.Cli.Level
import ServerLauncher.Storage

/-!
Reading a command line. Each level is completed from the environment; then every setting is taken
from the stronger source, and from the level after the command where both are equally strong.
-/

namespace ServerLauncher.Cli

inductive Command where
  | ensure
  | paths (json : Bool)
  | run (args : List String)
  deriving DecidableEq, Repr

structure Invocation where
  storageRoot : Option Bytes
  tag : String
  releaseUrl : Option String
  logFile : Option String
  quiet : Bool
  command : Command
  deriving DecidableEq, Repr

/-- Where a value comes from, weaker sources first. -/
inductive Source where
  | builtIn
  | environment
  | commandLine
  deriving DecidableEq, Repr

def Source.strength : Source → Nat
  | builtIn => 0
  | environment => 1
  | commandLine => 2

structure Found (α : Type) where
  source : Source
  value : α
  deriving DecidableEq, Repr

/-- The stronger of two values, the inner one if they are equally strong. -/
def Found.pick {α : Type} (outer inner : Found α) : Found α :=
  if inner.source.strength < outer.source.strength then outer else inner

def Found.pick? {α : Type} (outer inner : Option (Found α)) : Option (Found α) :=
  match outer, inner with
  | some a, some b => some (a.pick b)
  | some a, none => some a
  | none, b => b

def defaultTag : String := "v0.1.0"

/-- The settings of one level with their sources. -/
structure Settings where
  storageRoot : Option (Found Bytes)
  tag : Found String
  releaseUrl : Option (Found String)
  logFile : Option (Found String)
  quiet : Found Bool
  deriving DecidableEq, Repr

namespace Settings

def given? (l : Level) (s : Setting) : Option (Found String) :=
  (l.value? s).map (⟨.commandLine, ·⟩)

/-- The storage root is a path, which is any bytes. -/
def givenRoot? (l : Level) : Option (Found Bytes) :=
  (l.value? .storageRoot).map fun path => ⟨.commandLine, .ofText path⟩

/-- The value of a variable, which has to be a text. -/
def textVariable? (env : Environment) (name : String) : Except UsageFault (Option (Found String)) :=
  match env.get? name with
  | none => .ok none
  | some bytes =>
    match Text.strict? bytes with
    | some s => .ok (some ⟨.environment, s⟩)
    | none => .error .notText

/-- Any bytes make a path, but not no bytes. -/
def rootVariable? (env : Environment) : Except UsageFault (Option (Found Bytes)) :=
  match env.get? Storage.rootVariable with
  | none => .ok none
  | some path => if path = [] then .error .value else .ok (some ⟨.environment, path⟩)

/-- Looks into the environment only for what was not given. -/
def orElse {α : Type} (given : Option (Found α)) (other : Except UsageFault (Option (Found α))) :
    Except UsageFault (Option (Found α)) :=
  if given.isSome then .ok given else other

/-- Completes a level from the environment. -/
def complete (env : Environment) (l : Level) : Except UsageFault Settings := do
  let storageRoot ← orElse (givenRoot? l) (rootVariable? env)
  let tag ← orElse (given? l .tag) (textVariable? env "PROSEMD_TAG")
  let releaseUrl ← orElse (given? l .releaseUrl) (textVariable? env "PROSEMD_RELEASE_URL")
  return {
    storageRoot, releaseUrl,
    tag := tag.getD ⟨.builtIn, defaultTag⟩,
    logFile := given? l .logFile,
    quiet := ⟨if l.quiet then .commandLine else .builtIn, l.quiet⟩ }

def isUntouched (s : Settings) : Bool :=
  s.storageRoot.isNone && s.tag.source == .builtIn && s.releaseUrl.isNone && s.logFile.isNone &&
    s.quiet.source == .builtIn

def merge (outer inner : Settings) : Settings where
  storageRoot := Found.pick? outer.storageRoot inner.storageRoot
  tag := outer.tag.pick inner.tag
  releaseUrl := Found.pick? outer.releaseUrl inner.releaseUrl
  logFile := Found.pick? outer.logFile inner.logFile
  quiet := outer.quiet.pick inner.quiet

def invocation (s : Settings) (command : Command) : Invocation where
  storageRoot := s.storageRoot.map (·.value)
  tag := s.tag.value
  releaseUrl := s.releaseUrl.map (·.value)
  logFile := s.logFile.map (·.value)
  quiet := s.quiet.value
  command := command

end Settings

def commandOf (p : Place) (l : Level) : Command :=
  match p with
  | .paths => .paths l.json
  | .run => .run l.args
  | _ => .ensure

/-- Help about a command, if it is one. -/
def helpOn : List String → UsageFault
  | [] => .help
  | [name] => if Place.commandNames.contains name then .help else .unknownCommand
  | _ => .unknownCommand

/-- A command line without a command is wrong in one of two ways. -/
def withoutCommand (env : Environment) (top : Level) : Except UsageFault Invocation := do
  let settings ← Settings.complete env (← top.settle)
  throw (if settings.isUntouched then .nothingGiven else .noCommand)

def parse (env : Environment) (args : List String) : Except UsageFault Invocation := do
  let (top, next) ← Level.scan .top { } args
  match next with
  | none => withoutCommand env top
  | some (name, rest) =>
    match Place.ofCommand? name with
    | none => throw (helpOn rest)
    | some p =>
      let (level, _) ← Level.scan p { } rest
      let level ← level.settle
      let inner ← Settings.complete env level
      let outer ← Settings.complete env (← top.settle)
      return (Settings.merge outer inner).invocation (commandOf p level)

end ServerLauncher.Cli
