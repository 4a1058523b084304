import ServerLauncher.Files.Tree
import ServerLauncher.Text.Ranges

/-!
Paths as texts, and the entries that they lead to. Empty steps and steps `.` inside a path do not
count. Links are followed, at most forty of them; a name is at most 255 bytes long and a path at
most 4095.
-/

namespace ServerLauncher.FilePath

def isAbsolute (p : String) : Bool :=
  p.toList.head? == some '/'

/-- An absolute right side replaces the left one; else one slash stands between the two, unless the
left one is empty or ends with a slash. -/
def join (base name : String) : String :=
  if isAbsolute name then name
  else if base.toList = [] ∨ base.toList.getLast? = some '/' then base ++ name
  else base ++ "/" ++ name

/-- What stands in front of the steps: the root, or a step `.` at the very start. -/
def lead : List Char → List Char
  | '/' :: _ => ['/']
  | ['.'] => ['.']
  | '.' :: '/' :: _ => ['.']
  | _ => []

/-- A step that leads nowhere. -/
def isIdle (step : List Char) : Bool :=
  step.isEmpty || step == ['.']

def dropIdleEnd (steps : List (List Char)) : List (List Char) :=
  (steps.reverse.dropWhile isIdle).reverse

/-- The steps after the lead, without idle ones at the end. -/
def body (cs : List Char) : List (List Char) :=
  dropIdleEnd (Text.splitOn '/' (cs.drop (lead cs).length))

/-- The path without its last step; a root and an empty path lie in no directory. -/
def parentChars? (cs : List Char) : Option (List Char) :=
  let steps := body cs
  if steps.isEmpty then if lead cs = ['.'] then some [] else none
  else some (lead cs ++ ['/'].intercalate (dropIdleEnd steps.dropLast))

def parent? (p : String) : Option String :=
  (parentChars? p.toList).map String.ofList

def fileName? (p : String) : Option String :=
  match (body p.toList).getLast? with
  | some name => if name = "..".toList then none else some (String.ofList name)
  | none => none

end ServerLauncher.FilePath

namespace ServerLauncher

def linkLimit : Nat := 40

namespace Tree

def steps (path : String) : List String :=
  (Text.splitOn '/' path.toList).map String.ofList

def origin (dir : Key) (path : String) : Key :=
  if FilePath.isAbsolute path then [] else dir

/-- Takes the steps one after another; `jump` goes on where a link leads. -/
def walkWith (t : Tree) (jump : Key → List String → Except OsError Key) :
    Key → List String → Except OsError Key
  | dir, [] => .ok dir
  | dir, step :: rest =>
    if step = "" ∨ step = "." then walkWith t jump dir rest
    else if step = ".." then walkWith t jump dir.tail rest
    else if 255 < step.utf8ByteSize then .error .nameTooLong
    else
      match t.get? (step :: dir) with
      | none => .error .noEntry
      | some .dir => walkWith t jump (step :: dir) rest
      | some (.file ..) => if rest = [] then .ok (step :: dir) else .error .notDirectory
      | some (.link target) => jump (origin dir target) (steps target ++ rest)

/-- Takes the steps with a number of links to spare. -/
def walk (t : Tree) : Nat → Key → List String → Except OsError Key
  | 0 => t.walkWith fun _ _ => .error .loop
  | n + 1 => t.walkWith (t.walk n)

/-- Faults of a path that are found without looking at the tree. -/
def pathFault? (path : String) : Option FileError :=
  if path.toList.contains '\x00' then some .nulInPath
  else if path = "" then some (.os .noEntry)
  else if 4096 ≤ path.utf8ByteSize then some (.os .nameTooLong)
  else none

def locate (t : Tree) (cwd : Key) (path : String) : Except FileError Key :=
  match pathFault? path with
  | some fault => .error fault
  | none => (t.walk linkLimit (origin cwd path) (steps path)).mapError .os

/-- The last step of a path. -/
inductive LastStep where
  | name (name : String) (slash : Bool)
  | dots
  | root
  deriving DecidableEq, Repr

/-- The steps to the directory of a path, and the last step. -/
def splitLast (path : String) : List String × LastStep :=
  let all := steps path
  let kept := (all.reverse.dropWhile (· == "")).reverse
  match kept.getLast? with
  | none => ([], .root)
  | some last =>
    let dir := kept.dropLast ++ [""]
    if last = "." ∨ last = ".." then (dir, .dots)
    else (dir, .name last (decide (kept.length < all.length)))

/-- The directory that a path's last step is taken from, and that step. -/
def locateParent (t : Tree) (cwd : Key) (path : String) : Except FileError (Key × LastStep) :=
  match pathFault? path with
  | some fault => .error fault
  | none =>
    let (dirSteps, last) := splitLast path
    match t.walk linkLimit (origin cwd path) dirSteps with
    | .ok dir => .ok (dir, last)
    | .error e => .error (.os e)

def stat (t : Tree) (cwd : Key) (path : String) : Except FileError Entry :=
  match t.locate cwd path with
  | .error e => .error e
  | .ok k =>
    match t.get? k with
    | some e => .ok e
    | none => .error (.os .noEntry)

def pathExists (t : Tree) (cwd : Key) (path : String) : Bool :=
  (t.stat cwd path).toOption.isSome

def pathIsDir (t : Tree) (cwd : Key) (path : String) : Bool :=
  (t.stat cwd path).toOption.any Entry.isDir

end Tree

end ServerLauncher
