import ServerLauncher.Files.Change
import ServerLauncher.Files.Walk
import ServerLauncher.Script.Machine
import ServerLauncher.Text.Basic

/-!
Small programs that every host has, and what the system makes of a file that is to be started. A
utility takes its arguments and changes the state of the script that calls it. A file runs if its
owner may run it and it is a program of the host, or if its first line names an interpreter that
runs.
-/

namespace ServerLauncher.Script

abbrev Utility := List String → Machine → Machine × Flow

namespace Utility

def simply (f : List String → Machine → Machine) : Utility :=
  fun args m => (f args m, .next)

def integer? (s : String) : Option Int :=
  let cs := Text.trimChars s.toList
  let (negative, digits) : Bool × List Char :=
    match cs with
    | '-' :: rest => (true, rest)
    | '+' :: rest => (false, rest)
    | _ => (false, cs)
  if digits = [] ∨ digits.any (!·.isDigit) then none
  else
    let n : Int := (digits.foldl (fun n c => 10 * n + (c.toNat - 48)) 0 : Nat)
    some (if negative then -n else n)

/-- Milliseconds of a count of seconds with a fraction and perhaps a unit. -/
def millis? (s : String) : Option Nat :=
  let cs := s.toList
  let whole := cs.takeWhile Char.isDigit
  let after := cs.dropWhile Char.isDigit
  let (tenths, unit) : List Char × List Char :=
    match after with
    | '.' :: rest => (rest.takeWhile Char.isDigit, rest.dropWhile Char.isDigit)
    | _ => ([], after)
  let value (ds : List Char) : Nat := ds.foldl (fun n c => 10 * n + (c.toNat - 48)) 0
  let scaled := value whole * 1000 + value ((tenths ++ ['0', '0', '0']).take 3)
  if whole = [] ∧ tenths = [] then none
  else
    match unit with
    | [] => some scaled
    | ['s'] => some scaled
    | ['m'] => some (60 * scaled)
    | ['h'] => some (3600 * scaled)
    | ['d'] => some (86400 * scaled)
    | _ => none

/-- The character of an octal escape of at most three digits, and what follows. -/
def octal (cs : List Char) : UInt8 × List Char :=
  let isOctal (c : Char) : Bool := '0' ≤ c && c ≤ '7'
  let digits := (cs.take 3).takeWhile isOctal
  let value : Nat := digits.foldl (fun n c => 8 * n + (c.toNat - 48)) 0
  (value.toUInt8, cs.drop digits.length)

/-- The byte that a letter after a backslash means. -/
def letterEscape? : Char → Option UInt8
  | 'a' => some 7
  | 'b' => some 8
  | 'f' => some 12
  | 'n' => some 10
  | 'r' => some 13
  | 't' => some 9
  | 'v' => some 11
  | '\\' => some 92
  | _ => none

/-- Writes out escapes, and says whether `\c` cut the output short. -/
def unescape : Nat → List Char → Bytes × Bool
  | 0, _ => ([], false)
  | _, [] => ([], false)
  | n + 1, '\\' :: c :: rest =>
    if c = 'c' then ([], true)
    else if c = '0' then
      let (byte, more) := octal rest
      let r := unescape n more
      (byte :: r.1, r.2)
    else
      match letterEscape? c with
      | some byte =>
        let r := unescape n rest
        (byte :: r.1, r.2)
      | none =>
        let r := unescape n rest
        (Bytes.ofText (String.ofList ['\\', c]) ++ r.1, r.2)
  | n + 1, c :: rest =>
    let r := unescape n rest
    (Bytes.ofText (String.singleton c) ++ r.1, r.2)

def echo (args : List String) (m : Machine) : Machine :=
  let (words, newline) :=
    match args with
    | "-n" :: rest => (rest, false)
    | _ => (args, true)
  let text := (" ".intercalate words).toList
  let (bytes, cut) := unescape (text.length + 1) text
  { m.write 1 (if newline && !cut then bytes ++ [10] else bytes) with status := 0 }

/-- Fills up a text on the left, or on the right for a negative width. -/
def pad (width : Int) (fill : Char) (s : String) : String :=
  let missing := width.natAbs - s.length
  if width < 0 then s ++ String.ofList (List.replicate missing ' ')
  else String.ofList (List.replicate missing fill) ++ s

/-- One directive of a format, and the argument it takes. -/
def directive (kind : Char) (width : Int) (fill : Char) (arg : String) : Bytes :=
  let number := (integer? arg).getD 0
  match kind with
  | 'd' => .ofText (pad width fill (toString number))
  | 'i' => .ofText (pad width fill (toString number))
  | 'u' => .ofText (pad width fill (toString number))
  | 'x' => .ofText (pad width fill (String.ofList (Nat.toDigits 16 number.natAbs)))
  | 'o' => .ofText (pad width fill (String.ofList (Nat.toDigits 8 number.natAbs)))
  | 'c' => .ofText (pad width ' ' (String.ofList (arg.toList.take 1)))
  | 'b' => (unescape (arg.length + 1) arg.toList).1
  | _ => .ofText (pad width ' ' arg)

def format : Nat → List Char → List String → Bytes × List String
  | 0, _, args => ([], args)
  | _, [], args => ([], args)
  | n + 1, '%' :: '%' :: rest, args =>
    let r := format n rest args
    (37 :: r.1, r.2)
  | n + 1, '%' :: rest, args =>
    let (left, rest) : Bool × List Char :=
      match rest with
      | '-' :: more => (true, more)
      | _ => (false, rest)
    let fill := if rest.head? = some '0' then '0' else ' '
    let size := (integer? (String.ofList (rest.takeWhile Char.isDigit))).getD 0
    match rest.dropWhile Char.isDigit with
    | kind :: more =>
      let bytes := directive kind (if left then -size else size) fill (args.headD "")
      let r := format n more args.tail
      (bytes ++ r.1, r.2)
    | [] => ([37], args)
  | n + 1, '\\' :: c :: rest, args =>
    if '0' ≤ c ∧ c ≤ '7' then
      let (byte, more) := octal (c :: rest)
      let r := format n more args
      (byte :: r.1, r.2)
    else
      let r := format n rest args
      match letterEscape? c with
      | some byte => (byte :: r.1, r.2)
      | none => (Bytes.ofText (String.ofList ['\\', c]) ++ r.1, r.2)
  | n + 1, c :: rest, args =>
    let r := format n rest args
    (Bytes.ofText (String.singleton c) ++ r.1, r.2)

/-- Goes over the format again as long as it takes arguments. -/
def formatAll : Nat → List Char → List String → Bytes
  | 0, _, _ => []
  | n + 1, cs, args =>
    let (bytes, rest) := format (cs.length + 1) cs args
    if rest = [] ∨ rest.length = args.length then bytes else bytes ++ formatAll n cs rest

def printf (args : List String) (m : Machine) : Machine :=
  match args with
  | [] => m.complain "printf: usage: printf format [arg ...]" 2
  | f :: rest => { m.write 1 (formatAll (rest.length + 1) f.toList rest) with status := 0 }

def permits (bit : Nat) : Entry → Bool
  | .file mode _ => mode / bit % 2 == 1
  | _ => true

def unary (m : Machine) (sign operand : String) : Option Bool :=
  let entry := (m.tree.stat m.cwd operand).toOption
  match sign with
  | "-n" => some (operand ≠ "")
  | "-z" => some (operand = "")
  | "-e" => some entry.isSome
  | "-f" => some (entry.any Entry.isFile)
  | "-d" => some (entry.any Entry.isDir)
  | "-r" => some (entry.any (permits 256))
  | "-w" => some (entry.any (permits 128))
  | "-x" => some (entry.any (permits 64))
  | "-s" => some (entry.any fun
      | .file _ content => !content.isEmpty
      | _ => true)
  | "-t" => some false
  | "-h" => some (isLink operand)
  | "-L" => some (isLink operand)
  | _ => none
where
  isLink (path : String) : Bool :=
    match m.tree.locateParent m.cwd path with
    | .ok (dir, .name name false) =>
      match m.tree.get? (name :: dir) with
      | some (.link _) => true
      | _ => false
    | _ => false

def binary (a sign b : String) : Option Bool :=
  let compare (holds : Int → Int → Bool) : Option Bool := do
    return holds (← integer? a) (← integer? b)
  match sign with
  | "=" => some (a = b)
  | "!=" => some (a ≠ b)
  | "-eq" => compare fun x y => x = y
  | "-ne" => compare fun x y => x ≠ y
  | "-lt" => compare fun x y => x < y
  | "-le" => compare fun x y => x ≤ y
  | "-gt" => compare fun x y => y < x
  | "-ge" => compare fun x y => y ≤ x
  | _ => none

/-- A condition of a few words; nothing if it has no meaning. -/
def condition (m : Machine) : List String → Option Bool
  | [] => some false
  | ["!"] => some true
  | [a] => some (a ≠ "")
  | ["!", a] => (condition m [a]).map (!·)
  | [sign, a] => unary m sign a
  | ["!", a, b] => (condition m [a, b]).map (!·)
  | [a, sign, b] => binary a sign b
  | "!" :: rest => (condition m rest).map (!·)
  | a :: sign :: b :: "-a" :: rest => do
    return (← binary a sign b) && (← condition m rest)
  | a :: sign :: b :: "-o" :: rest => do
    return (← binary a sign b) || (← condition m rest)
  | sign :: a :: "-a" :: rest => do
    return (← unary m sign a) && (← condition m rest)
  | sign :: a :: "-o" :: rest => do
    return (← unary m sign a) || (← condition m rest)
  | _ => none

def test (args : List String) (m : Machine) : Machine :=
  match condition m args with
  | some holds => m.succeed holds
  | none => m.complain "test: unexpected operator" 2

/-- The same condition with a bracket at its end. -/
def bracket (args : List String) (m : Machine) : Machine :=
  if args.getLast? = some "]" then test args.dropLast m
  else m.complain "[: missing ]" 2

/-- Complains in the name of a program. -/
def fault (m : Machine) (program text : String) : Machine :=
  { m.write 2 (.ofText (program ++ ": " ++ text ++ "\n")) with status := 1 }

/-- What the system says of a failure. -/
def describe : FileError → String
  | .os e => e.description
  | e => e.text

def cat (args : List String) (m : Machine) : Machine :=
  let show1 (m : Machine) (path : String) : Machine :=
    if path = "-" then { m.write 1 m.input with input := [] }
    else
      match m.tree.stat m.cwd path with
      | .ok (.file mode content) =>
        if permits 256 (.file mode content) then m.write 1 content
        else fault m "cat" (path ++ ": Permission denied")
      | .ok _ => fault m "cat" (path ++ ": Is a directory")
      | .error e => fault m "cat" (path ++ ": " ++ describe e)
  (if args = [] then ["-"] else args).foldl show1 { m with status := 0 }

def sleep : Utility := fun args m =>
  match args.mapM millis? with
  | some (first :: more) => m.sleep (more.foldl (· + ·) first)
  | _ => (fault m "sleep" "invalid time interval", .next)

def operands (args : List String) : List String :=
  args.filter fun a => !(a.startsWith "-" && a != "-")

def hasFlag (args : List String) (flag : Char) : Bool :=
  args.any fun a => a.startsWith "-" && a.toList.contains flag

/-- Complains that something cannot be done to a path. -/
def refuse (m : Machine) (program verb path : String) (e : FileError) : Machine :=
  fault m program ("cannot " ++ verb ++ " '" ++ path ++ "': " ++ describe e)

/-- The outcome of a change that may fail. -/
def changed (program verb : String) (m : Machine) (path : String) (r : Except FileError Tree) :
    Machine :=
  match r with
  | .ok tree => { m with tree }
  | .error e => refuse m program verb path e

def touch (args : List String) (m : Machine) : Machine :=
  (operands args).foldl (fun m path =>
    if m.tree.pathIsDir m.cwd path then m
    else changed "touch" "touch" m path ((m.tree.openAppend m.cwd path).map Prod.fst))
    { m with status := 0 }

def makeDir (args : List String) (m : Machine) : Machine :=
  (operands args).foldl (fun m path =>
    if hasFlag args 'p' then
      match m.tree.makeDirs m.cwd path with
      | (tree, none) => { m with tree }
      | (tree, some e) => refuse { m with tree } "mkdir" "create directory" path e
    else changed "mkdir" "create directory" m path (m.tree.makeDir m.cwd path))
    { m with status := 0 }

def remove (args : List String) (m : Machine) : Machine :=
  (operands args).foldl (fun m path =>
    if hasFlag args 'r' || hasFlag args 'R' then { m with tree := m.tree.removeAll m.cwd path }
    else
      let tree := m.tree.removeFile m.cwd path
      if tree = m.tree && !hasFlag args 'f' then refuse m "rm" "remove" path (.os .noEntry)
      else { m with tree }) { m with status := 0 }

/-- The path of a copy: inside the target, if that is a directory. -/
def targetOf (m : Machine) (source target : String) : String :=
  if m.tree.pathIsDir m.cwd target then
    FilePath.join target ((FilePath.fileName? source).getD source)
  else target

def move (args : List String) (m : Machine) : Machine :=
  match operands args with
  | [source, target] =>
    changed "mv" "stat" { m with status := 0 } source
      (m.tree.moveFile m.cwd source (targetOf m source target))
  | _ => fault m "mv" "missing file operand"

def copy (args : List String) (m : Machine) : Machine :=
  match operands args with
  | [source, target] =>
    match m.tree.stat m.cwd source with
    | .ok (.file mode content) =>
      let path := targetOf m source target
      match m.tree.openAppend m.cwd path with
      | .ok (tree, k) =>
        let isNew := (m.tree.get? k).isNone
        { m with
          status := 0,
          tree := tree.modify k fun
            | .file old _ => .file (if isNew then mode else old) content
            | e => e }
      | .error e => refuse m "cp" "create regular file" path e
    | _ => refuse m "cp" "stat" source (.os .noEntry)
  | _ => fault m "cp" "missing file operand"

def link (args : List String) (m : Machine) : Machine :=
  match operands args with
  | [target, path] => { m with status := 0, tree := m.tree.makeLink m.cwd path target }
  | _ => fault m "ln" "missing file operand"

/-- New permission bits: octal, or bits of all added to or taken from the old ones. -/
def modeOf (spec : String) (old : Nat) : Nat :=
  let bitOf (c : Char) : Nat := if c = 'r' then 0o444 else if c = 'w' then 0o200 else 0o111
  let scope := spec.toList.takeWhile fun c => "ugoa".toList.contains c
  let mask := if scope = ['u'] then 0o700 else 0o777
  match spec.toList.dropWhile fun c => "ugoa".toList.contains c with
  | '+' :: bits => old ||| (bits.foldl (fun n c => n ||| bitOf c) 0 &&& mask)
  | '-' :: bits =>
    let gone := bits.foldl (fun n c => n ||| (if c = 'w' then 0o222 else bitOf c)) 0 &&& mask
    old - (old &&& gone)
  | cs => cs.foldl (fun n c => 8 * n + (c.toNat - 48)) 0

def changeMode (args : List String) (m : Machine) : Machine :=
  match args with
  | spec :: paths =>
    paths.foldl (fun m path =>
      match m.tree.locate m.cwd path with
      | .ok k =>
        { m with
          tree := m.tree.modify k fun
            | .file mode content => .file (modeOf spec mode) content
            | e => e }
      | .error e => refuse m "chmod" "access" path e) { m with status := 0 }
  | [] => fault m "chmod" "missing operand"

def baseName (args : List String) (m : Machine) : Machine :=
  let path := args.headD ""
  let name := (FilePath.fileName? path).getD path
  let suffix := (args.drop 1).headD ""
  let kept :=
    if name.endsWith suffix && name != suffix then
      String.ofList (name.toList.take (name.length - suffix.length))
    else name
  { m.print (kept ++ "\n") with status := 0 }

def dirName (args : List String) (m : Machine) : Machine :=
  let dir := (FilePath.parent? (args.headD "")).getD "/"
  { m.print ((if dir = "" then "." else dir) ++ "\n") with status := 0 }

def sequence (args : List String) (m : Machine) : Machine :=
  let bounds : Option (Int × Int) :=
    match args.map integer? with
    | [some last] => some (1, last)
    | [some first, some last] => some (first, last)
    | _ => none
  match bounds with
  | some (first, last) =>
    let line (i : Nat) : String := toString (first + (i : Int)) ++ "\n"
    let lines := (List.range (last - first + 1).toNat).map line
    { m.print (String.join lines) with status := 0 }
  | none => fault m "seq" "invalid argument"

def printEnvironment (args : List String) (m : Machine) : Machine :=
  match args with
  | [] =>
    let lines := m.environment.map fun p => p.1 ++ "=" ++ p.2 ++ "\n"
    { m.print (String.join lines) with status := 0 }
  | name :: _ =>
    match m.environment.lookup name with
    | some value => { m.print (value ++ "\n") with status := 0 }
    | none => { m with status := 1 }

def workDir (_ : List String) (m : Machine) : Machine :=
  { m.print ("/" ++ "/".intercalate m.cwd.reverse ++ "\n") with status := 0 }

def all : List (String × Utility) := [
  ("true", simply fun _ m => { m with status := 0 }),
  ("false", simply fun _ m => { m with status := 1 }),
  ("echo", simply echo),
  ("printf", simply printf),
  ("test", simply test),
  ("[", simply bracket),
  ("cat", simply cat),
  ("sleep", sleep),
  ("touch", simply touch),
  ("mkdir", simply makeDir),
  ("rm", simply remove),
  ("mv", simply move),
  ("cp", simply copy),
  ("ln", simply link),
  ("chmod", simply changeMode),
  ("basename", simply baseName),
  ("dirname", simply dirName),
  ("seq", simply sequence),
  ("printenv", simply printEnvironment),
  ("pwd", simply workDir)]

end Utility

def programDir : Key := ["bin", "usr"]

def programNames : List String :=
  ["sh", "dash", "bash", "env", "kill"] ++ Utility.all.map Prod.fst

/-- The program of the host at a place. -/
def program? : Key → Option String
  | name :: dir => if dir = programDir ∧ programNames.contains name then some name else none
  | [] => none

def isSpace (b : UInt8) : Bool := b == 32 || b == 9

/-- The interpreter named by the first line, and the argument for it. -/
def interpreter? (content : Bytes) : Option (String × List String) :=
  match content with
  | 35 :: 33 :: rest =>
    let head := rest.take 254
    let line := head.takeWhile fun b => b != 10 && b != 0
    let trimmed := ((line.dropWhile isSpace).reverse.dropWhile isSpace).reverse
    let name := trimmed.takeWhile (!isSpace ·)
    let arg := (trimmed.dropWhile (!isSpace ·)).dropWhile isSpace
    let text (bytes : Bytes) : String := Text.loose bytes
    if name = [] ∨ (line.length = 254 ∧ arg = []) then none
    else some (text name, if arg = [] then [] else [text arg])
  | _ => none

/-- The program that really runs, with its arguments. An interpreter gets the path of its file. -/
def loadWithin (t : Tree) (cwd : Key) : Nat → String → List String →
    Except FileError (String × List String)
  | 0, _, _ => .error (.os .loop)
  | n + 1, path, args =>
    match t.locate cwd path with
    | .error e => .error e
    | .ok k =>
      match t.get? k with
      | some (.file mode content) =>
        if mode / 64 % 2 = 0 then .error (.os .denied)
        else
          match program? k with
          | some name => .ok (name, args)
          | none =>
            match interpreter? content with
            | some (name, extra) => loadWithin t cwd n name (extra ++ path :: args)
            | none => .error (.os .execFormat)
      | some _ => .error (.os .denied)
      | none => .error (.os .noEntry)

/-- Where the interpreter of a script may be a script again, a few times. -/
def load (t : Tree) (cwd : Key) (path : String) (args : List String) :
    Except FileError (String × List String) :=
  loadWithin t cwd 6 path args

/-- A name without a slash is looked up among the programs of the host. -/
def resolve (path : String) : String :=
  if path.toList.contains '/' then path else "/usr/bin/" ++ path

end ServerLauncher.Script
