import ServerLauncher.Storage

/-!
Arguments of one level of the command line: those before the command, or those after it. Options and
flags are collected in any order; the value of an option may follow it or stand behind a sign `=`.
-/

namespace ServerLauncher.Cli

/-- Why a command line is not carried out. Asking for help or the version counts, too. -/
inductive UsageFault where
  | value
  | unknownArgument
  | unknownCommand
  | needlessValue
  | repeated
  | noCommand
  | nothingGiven
  | notText
  | help
  | version
  deriving DecidableEq, Repr

namespace UsageFault

/-- Help and version were asked for; all else is wrong usage. -/
def isRequest : UsageFault → Bool
  | help => true
  | version => true
  | _ => false

def exitCode (f : UsageFault) : Nat :=
  if f.isRequest then 0 else 2

end UsageFault

inductive Setting where
  | storageRoot
  | tag
  | releaseUrl
  | logFile
  deriving DecidableEq, Repr

namespace Setting

def all : List Setting := [storageRoot, tag, releaseUrl, logFile]

def name : Setting → String
  | storageRoot => "storage-root"
  | tag => "tag"
  | releaseUrl => "release-url"
  | logFile => "log-file"

/-- A path cannot be empty. -/
def isPath : Setting → Bool
  | storageRoot => true
  | logFile => true
  | _ => false

end Setting

inductive Flag where
  | quiet
  | json
  | help
  | version
  deriving DecidableEq, Repr

/-- The levels: before the command, or after one of the commands. -/
inductive Place where
  | top
  | ensure
  | paths
  | run
  deriving DecidableEq, Repr

namespace Place

def flag? (p : Place) (name : String) : Option Flag :=
  if name = "quiet" then some .quiet
  else if name = "help" then some .help
  else if name = "version" ∧ p = .top then some .version
  else if name = "json" ∧ p = .paths then some .json
  else none

def letter? (p : Place) (c : Char) : Option Flag :=
  if c = 'q' then some .quiet
  else if c = 'h' then some .help
  else if c = 'V' ∧ p = .top then some .version
  else none

/-- The words that end the level before the command. -/
def commandNames : List String := ["ensure", "paths", "run", "help"]

def isCommand (p : Place) (arg : String) : Bool :=
  p == top && commandNames.contains arg

/-- The level after a command. -/
def ofCommand? (name : String) : Option Place :=
  if name = "ensure" then some ensure
  else if name = "paths" then some paths
  else if name = "run" then some run
  else none

def stray : Place → UsageFault
  | top => .unknownCommand
  | _ => .unknownArgument

end Place

/-- What an argument looks like. -/
inductive Shape where
  | separator
  | long (name : String) (value : Option String)
  | short (letters : List Char)
  | word
  deriving DecidableEq, Repr

/-- The text before and after the first sign `=`. -/
def splitValue (cs : List Char) : String × Option String :=
  (String.ofList (cs.takeWhile (· != '=')),
    match cs.dropWhile (· != '=') with
    | _ :: value => some (String.ofList value)
    | [] => none)

def Shape.ofArg (arg : String) : Shape :=
  match arg.toList with
  | ['-', '-'] => .separator
  | '-' :: '-' :: rest =>
    let (name, value) := splitValue rest
    .long name value
  | '-' :: c :: rest => .short (c :: rest)
  | _ => .word

/-- What was given at one level. The last option may still wait for its value, or hold one that has
not been looked at. -/
structure Level where
  values : List (Setting × String) := []
  quiet : Bool := false
  json : Bool := false
  pending : Option (Setting × Option String) := none
  args : List String := []
  deriving DecidableEq, Repr

namespace Level

/-- The last option waits for its value. -/
def isWaiting (l : Level) : Bool :=
  l.pending.any (·.2.isNone)

def value? (l : Level) (s : Setting) : Option String :=
  l.values.lookup s

/-- Takes a value, once for each option. -/
def record (l : Level) (s : Setting) (v : String) : Except UsageFault Level :=
  if (l.value? s).isSome then .error .repeated
  else if s.isPath ∧ v = "" then .error .value
  else .ok { l with values := l.values ++ [(s, v)] }

def settle (l : Level) : Except UsageFault Level :=
  match l.pending with
  | none => .ok l
  | some (_, none) => .error .value
  | some (s, some v) => { l with pending := none }.record s v

def raise (l : Level) (f : Flag) : Except UsageFault Level := do
  let l ← l.settle
  match f with
  | .quiet => if l.quiet then throw .repeated else return { l with quiet := true }
  | .json => if l.json then throw .repeated else return { l with json := true }
  | .help => throw .help
  | .version => throw .version

def takeLong (l : Level) (p : Place) (name : String) (value : Option String) :
    Except UsageFault Level :=
  match Setting.all.find? (·.name == name), p.flag? name, value with
  | some s, _, some v => do (← l.settle).record s v
  | some s, _, none => do return { (← l.settle) with pending := some (s, none) }
  | none, some _, some _ => .error .needlessValue
  | none, some f, none => l.raise f
  | none, none, _ => .error .unknownArgument

def takeShort (p : Place) : Level → List Char → Except UsageFault Level
  | l, [] => .ok l
  | l, c :: rest =>
    match p.letter? c with
    | some f => do takeShort p (← l.raise f) rest
    | none => .error .unknownArgument

def give (l : Level) (v : String) : Level :=
  { l with pending := l.pending.map fun p => (p.1, some v) }

/-- What follows a separator: arguments for the server, or nothing. -/
def takeRest (l : Level) (p : Place) (rest : List String) : Except UsageFault Level :=
  match rest, p with
  | [], _ => .ok l
  | _, .run => do return { (← l.settle) with args := rest }
  | arg :: _, .top =>
    .error (if Place.top.isCommand arg then .unknownArgument else .unknownCommand)
  | _, _ => .error .unknownArgument

/-- Goes through the arguments of a level, up to the command if one follows. -/
def scan (p : Place) : Level → List String →
    Except UsageFault (Level × Option (String × List String))
  | l, [] => .ok (l, none)
  | l, arg :: rest =>
    if l.isWaiting = false ∧ p.isCommand arg = true then .ok (l, some (arg, rest))
    else
      match Shape.ofArg arg with
      | .separator => do return (← l.takeRest p rest, none)
      | .long name value => do scan p (← l.takeLong p name value) rest
      | .short letters => do scan p (← takeShort p l letters) rest
      | .word => if l.isWaiting then scan p (l.give arg) rest else .error p.stray

end Level

end ServerLauncher.Cli
