import ServerLauncher.Error
import ServerLauncher.Files.Walk
import ServerLauncher.Text.Basic

/-!
The variables that a program is started with, and the directory that servers are kept in when none
is named: a variable decides, else it is a directory for the data of the user. Values and paths are
any bytes.
-/

namespace ServerLauncher

abbrev Environment := List (String × Bytes)

namespace Environment

def get? (env : Environment) (name : String) : Option Bytes :=
  env.lookup name

/-- The value of a variable, if it is set to a text. -/
def text? (env : Environment) (name : String) : Option String :=
  (env.get? name).bind Text.strict?

def set (env : Environment) (name : String) (value : Bytes) : Environment :=
  (name, value) :: env.filter (·.1 != name)

def texts (env : Environment) : List (String × String) :=
  env.map fun p => (p.1, Text.loose p.2)

end Environment

end ServerLauncher

namespace ServerLauncher.Storage

def rootVariable : String := "PROSEMD_DATA_DIR"

/-- A path is any bytes; a relative name is put behind it as behind a path that is a text. -/
def join (base : Bytes) (name : String) : Bytes :=
  let slash : Bytes := .ofText "/"
  if base = [] ∨ base.getLast? = slash.head? then base ++ .ofText name
  else base ++ slash ++ .ofText name

/-- The directory for the data of a user whose home is known: a variable names it, if its value is
absolute, else it is in the home. -/
def userData (home? : Option Bytes) (env : Environment) : Option Bytes :=
  let isAbsolute (path : Bytes) : Bool := path.head? == (Bytes.ofText "/").head?
  ((env.get? "XDG_DATA_HOME").filter isAbsolute).or
    ((((env.get? "HOME").filter (· != [])).or home?).map (join · ".local/share"))

/-- The storage root by a value of the variable: blanks around it do not count, and what is there
already has to be a directory. -/
def ofText (t : Tree) (cwd : Key) (raw : String) : Except PathError Bytes :=
  let path := Text.trim raw
  if path = "" then .error .emptyPath
  else if t.pathExists cwd path ∧ t.pathIsDir cwd path = false then .error (.notDirectory path)
  else .ok (.ofText path)

/-- The storage root of an environment, where the system may know a directory for the data of the
user. -/
def default (dataDir? : Option Bytes) (env : Environment) (t : Tree) (cwd : Key) :
    Except PathError Bytes :=
  match env.text? rootVariable with
  | some raw => ofText t cwd raw
  | none =>
    match dataDir? with
    | some dir => .ok (join dir "prosemd")
    | none => .error .noDataDir

end ServerLauncher.Storage
