import ServerLauncher.Files.Walk
import ServerLauncher.Storage
import ServerLauncher.Text.Alphanumeric
import ServerLauncher.Text.Basic

/-!
Variables in a file: a name, the sign `=` and a value on each line. Quotes may go over several
lines, a remark starts with `#` after a blank, and `$` puts in the value of another variable. The
first line with a fault ends the file. A variable that is set already keeps its value.
-/

namespace ServerLauncher.Cli.EnvFile

/-- Where the end of a line stands in quotes and escapes. -/
inductive Mode where
  | plain
  | escape
  | strong
  | strongEscape
  | weak
  | weakEscape
  | blank
  | remark
  deriving DecidableEq, Repr

def Mode.next (m : Mode) (c : Char) : Mode :=
  let opening : Mode :=
    if c = '\\' then .escape
    else if c = '\x22' then .weak
    else if c = '\x27' then .strong
    else .plain
  match m with
  | .plain => if Text.isBlank c ∧ c ≠ '\n' ∧ c ≠ '\r' then .blank else opening
  | .blank => if c = '#' then .remark else opening
  | .escape => .plain
  | .strong => if c = '\\' then .strongEscape else if c = '\x27' then .plain else .strong
  | .strongEscape => .strong
  | .weak => if c = '\\' then .weakEscape else if c = '\x22' then .plain else .weak
  | .weakEscape => .weak
  | .remark => .remark

/-- The text of a line up to a remark, and where its end stands. -/
def scan : Mode → List Char → List Char × Mode
  | m, [] => ([], m)
  | m, c :: rest =>
    if m.next c = .remark then ([], .remark)
    else
      let r := scan (m.next c) rest
      (c :: r.1, r.2)

/-- A line without the signs for its end. -/
def chomp (cs : List Char) : List Char :=
  match cs.reverse with
  | '\n' :: '\r' :: rest => rest.reverse
  | '\n' :: rest => rest.reverse
  | _ => cs

/-- Joins lines that belong together. Nothing stands for an end within quotes. -/
def joined : (start : List Char) → Mode → List (List Char) → List (Option (List Char))
  | _, m, [] => if m = .plain then [] else [none]
  | start, m, line :: rest =>
    let whole := start ++ line
    if (whole.dropWhile Text.isBlank).head? = some '#' then some [] :: joined [] .plain rest
    else
      match scan m line with
      | (kept, .remark) => some (start ++ kept) :: joined [] .plain rest
      | (_, .plain) => some (chomp whole) :: joined [] .plain rest
      | (_, m) => joined whole m rest

/-- What is known while the lines are read: the environment, and the variables of the file. -/
structure State where
  env : Environment
  stored : List (String × String) := []

def State.value (s : State) (name : String) : String :=
  ((s.env.text? name).or (s.stored.lookup name)).getD ""

/-- How a substitution is written: not at all, with a bare name, or with a name in braces. -/
inductive Inset where
  | none
  | bare
  | braced
  deriving DecidableEq, Repr

/-- Where the reading of a value stands. -/
structure Reader where
  strong : Bool := false
  weak : Bool := false
  escaped : Bool := false
  ending : Bool := false
  inset : Inset := .none
  name : List Char := []
  out : List Char := []
  deriving DecidableEq, Repr

/-- Puts in the value of the name that has been read. -/
def Reader.putName (r : Reader) (s : State) : Reader :=
  { r with out := r.out ++ (s.value (String.ofList r.name)).toList, name := [], inset := .none }

def Reader.put (r : Reader) (c : Char) : Reader :=
  { r with out := r.out ++ [c] }

def escaped? (c : Char) : Option Char :=
  if c = 'n' then some '\n'
  else if ['\\', '\x27', '\x22', '$', ' '].contains c then some c
  else none

/-- Takes a character of a name that is to be put in. -/
def Reader.takeName (r : Reader) (s : State) (c : Char) : Reader :=
  if Text.isAlphanumeric c then { r with name := r.name ++ [c] }
  else if r.inset = .braced then
    if c = '\x7d' then r.putName s else { r with name := r.name ++ [c] }
  else if c = '\x7b' ∧ r.name = [] then { r with inset := .braced }
  else
    let r := r.putName s
    if c = '$' then { r with inset := .bare } else r.put c

/-- Takes a character where no escape, name or strong quote is open. -/
def Reader.takePlain (r : Reader) (c : Char) : Reader :=
  if c = '$' then { r with inset := .bare }
  else if r.weak then
    if c = '\x22' then { r with weak := false }
    else if c = '\\' then { r with escaped := true }
    else r.put c
  else if c = '\x27' then { r with strong := true }
  else if c = '\x22' then { r with weak := true }
  else if c = '\\' then { r with escaped := true }
  else if c = ' ' ∨ c = '\t' then { r with ending := true }
  else r.put c

def Reader.finish (r : Reader) (s : State) : Option String :=
  if r.inset = .braced ∨ r.strong ∨ r.weak then none
  else some (String.ofList (r.putName s).out)

/-- Reads a value. After a blank only more blanks and a remark may follow. -/
def value? (s : State) : Reader → List Char → Option String
  | r, [] => r.finish s
  | r, c :: rest =>
    if r.ending then
      if c = ' ' ∨ c = '\t' then value? s r rest
      else if c = '#' then r.finish s
      else none
    else if r.escaped then
      match escaped? c with
      | some d => value? s { (r.put d) with escaped := false } rest
      | none => none
    else if r.strong then
      value? s (if c = '\x27' then { r with strong := false } else r.put c) rest
    else if r.inset ≠ .none then value? s (r.takeName s c) rest
    else value? s (r.takePlain c) rest

def isKeyChar (c : Char) : Bool := c.isAlphanum || c == '_' || c == '.'

/-- The name at the start of a line, and what follows it and the blanks behind it. -/
def key? (cs : List Char) : Option (List Char × List Char) :=
  match cs with
  | c :: _ =>
    if c.isAlpha || c == '_' then
      some (cs.takeWhile isKeyChar, (cs.dropWhile isKeyChar).dropWhile Text.isBlank)
    else none
  | [] => none

/-- The name of a line and the text of its value. The word `export` may stand in front of both. -/
def assignment? (cs : List Char) : Option (List Char × List Char) := do
  let (key, rest) ← key? cs
  match rest with
  | '=' :: value => return (key, value.dropWhile Text.isBlank)
  | _ =>
    if key = "export".toList then
      let (key, rest) ← key? rest
      match rest with
      | '=' :: value => return (key, value.dropWhile Text.isBlank)
      | _ => none
    else none

/-- Sets a variable that is not set to a text yet. -/
def State.define (s : State) (name value : String) : State where
  env := if (s.env.text? name).isSome then s.env else s.env.set name (.ofText value)
  stored := (name, value) :: s.stored

def State.take (s : State) (line : List Char) : Option State :=
  let cs := (line.reverse.dropWhile Text.isBlank).reverse.dropWhile Text.isBlank
  if cs = [] ∨ cs.head? = some '#' then some s
  else do
    let (name, text) ← assignment? cs
    if text = [] ∨ text.head? = some '#' then return s.define (String.ofList name) ""
    else return s.define (String.ofList name) (← value? s { } text)

def State.takeAll (s : State) : List (Option (List Char)) → State
  | some line :: rest =>
    match s.take line with
    | some s => takeAll s rest
    | none => s
  | _ => s

/-- The lines of a file with their ends, up to the first that is no text. -/
def textLines : Nat → Bytes → List (List Char)
  | 0, _ => []
  | _, [] => []
  | n + 1, bytes =>
    let line := bytes.takeWhile (· != 10)
    let rest := bytes.dropWhile (· != 10)
    match Text.strict? (line ++ rest.take 1) with
    | some s => s.toList :: textLines n (rest.drop 1)
    | none => []

/-- Takes the content of a file. A mark of the byte order at its start does not count. -/
def load (env : Environment) (content : Bytes) : Environment :=
  let bytes :=
    match content with
    | 0xEF :: 0xBB :: 0xBF :: rest => rest
    | _ => content
  (State.takeAll { env } (joined [] .plain (textLines (bytes.length + 1) bytes))).env

/-- The file in a directory, if it is there; a fault other than that it is missing ends the search.
-/
def inDirectory (t : Tree) (dir : Key) : Except FileError (Option Bytes) :=
  match t.stat dir ".env" with
  | .ok (.file _ content) => .ok (some content)
  | .ok _ => .ok none
  | .error e => if e = .os .noEntry then .ok none else .error e

/-- The file in a directory, or else in the nearest one above it. -/
def find? (t : Tree) : Key → Option Bytes
  | [] => (inDirectory t []).toOption.join
  | name :: up =>
    match inDirectory t (name :: up) with
    | .ok (some content) => some content
    | .ok none => find? t up
    | .error _ => none

/-- The environment with the variables of the file that belongs to a directory. -/
def loadFrom (env : Environment) (t : Tree) (dir : Key) : Environment :=
  match find? t dir with
  | some content => load env content
  | none => env

end ServerLauncher.Cli.EnvFile
