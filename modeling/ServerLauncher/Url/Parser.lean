import ServerLauncher.Url.Address
import ServerLauncher.Url.Domain

/-!
Reading an address without a base. Controls and spaces at both ends and all tabs and line ends are
left out first; then scheme, authority, path, query and fragment are cut off from the left.
-/

namespace ServerLauncher.Url

def significant (cs : List Char) : List Char :=
  let edge (c : Char) : Bool := c.toNat ≤ 0x20
  let inner := ((cs.dropWhile edge).reverse.dropWhile edge).reverse
  inner.filter fun c => c != '\t' && c != '\n' && c != '\r'

def isSchemeChar (c : Char) : Bool :=
  c.isAlphanum || c == '+' || c == '-' || c == '.'

/-- The scheme in lower case, and what follows its colon. -/
def scheme? (cs : List Char) : Option (List Char × List Char) :=
  match cs with
  | [] => none
  | c :: _ =>
    if c.isAlpha then
      match cs.dropWhile isSchemeChar with
      | ':' :: rest => some ((cs.takeWhile isSchemeChar).map Char.toLower, rest)
      | _ => none
    else none

/-- A step of the path ends here. The well-known schemes take a backslash for a slash. -/
def isSlash (family : Family) (c : Char) : Bool :=
  c == '/' || (c == '\\' && family != .other)

def endsAuthority (family : Family) (c : Char) : Bool :=
  isSlash family c || c == '?' || c == '#'

/-- The parts of an authority before and after its last at sign. -/
def splitUser (cs : List Char) : Option (List Char) × List Char :=
  if cs.contains '@' then
    let after := (cs.reverse.takeWhile (· != '@')).reverse
    (some (cs.take (cs.length - after.length - 1)), after)
  else (none, cs)

/-- The host, up to a colon that stands outside brackets. -/
def splitPort : Bool → List Char → List Char × List Char
  | _, [] => ([], [])
  | inside, c :: rest =>
    if c = ':' ∧ inside = false then ([], c :: rest)
    else
      let inside := if c = '[' then true else if c = ']' then false else inside
      let (host, port) := splitPort inside rest
      (c :: host, port)

def bracketed? (cs : List Char) : Except Fault (List Nat) :=
  match cs.getLast? with
  | some ']' => ((Address.ipv6? (cs.dropLast.drop 1)).map Except.ok).getD (.error .ipv6)
  | _ => .error .ipv6

/-- A host of the well-known schemes. -/
def readHost (cs : List Char) : Except Fault Host :=
  if cs.head? = some '[' then (bracketed? cs).map Host.ipv6
  else
    match Domain.ofBytes? (Percent.decode cs) with
    | none => .error .domainName
    | some [] => .error .emptyHost
    | some name =>
      if Address.endsInNumber name then
        match Address.ipv4? name with
        | some n => .ok (.ipv4 n)
        | none => .error .ipv4
      else .ok (.domain name)

/-- Not allowed in the host of any other scheme. -/
def isHostBreaker (c : Char) : Bool :=
  "\x00\t\n\r #/:<>?@[\\]^|".toList.contains c

/-- A host of any other scheme is kept as it is written. -/
def readPlainHost (cs : List Char) : Except Fault Host :=
  if cs.head? = some '[' then (bracketed? cs).map Host.ipv6
  else if cs.any isHostBreaker then .error .domainCharacter
  else .ok (.domain (Percent.encode Percent.inControlSet cs))

/-- The port after a colon, and what follows it. No digits give no port. -/
def readPort (scheme cs : List Char) : Except Fault (Option Nat × List Char) :=
  let digits := cs.takeWhile Address.isDigit
  let rest := cs.dropWhile Address.isDigit
  let n := Address.valueIn 10 digits
  if 65535 < n then .error .port
  else if rest.head?.any fun c => !(c == '/' || c == '\\' || c == '?' || c == '#') then .error .port
  else .ok (if digits.isEmpty || defaultPort? scheme == some n then none else some n, rest)

def isSingleDot (step : List Char) : Bool :=
  [".".toList, "%2e".toList].contains (step.map Char.toLower)

def isDoubleDot (step : List Char) : Bool :=
  ["..".toList, ".%2e".toList, "%2e.".toList, "%2e%2e".toList].contains (step.map Char.toLower)

def splitSteps (family : Family) : List Char → List (List Char)
  | [] => [[]]
  | c :: rest =>
    if isSlash family c then [] :: splitSteps family rest
    else
      match splitSteps family rest with
      | [] => [[c]]
      | step :: steps => (c :: step) :: steps

/-- Walks the steps. `done` holds the steps kept so far, the last one first. -/
def walkSteps : (done : List (List Char)) → List (List Char) → List (List Char)
  | done, [] => done.reverse
  | done, step :: rest =>
    if isDoubleDot step then
      walkSteps (if rest.isEmpty then [] :: done.tail else done.tail) rest
    else if isSingleDot step then
      walkSteps (if rest.isEmpty then [] :: done else done) rest
    else walkSteps (Percent.encode Percent.inPathSet step :: done) rest

/-- The steps of a path that is written with a slash in front, or empty. -/
def readPath (family : Family) (cs : List Char) : List (List Char) :=
  match cs with
  | [] => if family = .other then [] else [[]]
  | c :: rest => walkSteps [] (splitSteps family (if isSlash family c then rest else c :: rest))

def isTail (c : Char) : Bool := c == '?' || c == '#'

/-- The query and the fragment at the end of an address. -/
def readTail (family : Family) (cs : List Char) : Option (List Char) × Option (List Char) :=
  let readFragment (cs : List Char) : Option (List Char) :=
    match cs with
    | '#' :: rest => some (Percent.encode Percent.inFragmentSet rest)
    | _ => none
  match cs with
  | '?' :: rest =>
    let set := if family = .other then Percent.inQuerySet else Percent.inSpecialQuerySet
    (some (Percent.encode set (rest.takeWhile (· != '#'))),
      readFragment (rest.dropWhile (· != '#')))
  | _ => (none, readFragment cs)

/-- Puts an address together from its authority and the text after it. -/
def finish (family : Family) (scheme username password : List Char) (host : Option Host)
    (port : Option Nat) (cs : List Char) : Url :=
  let tail := readTail family (cs.dropWhile fun c => !isTail c)
  { scheme, username, password, host, port,
    path := .segments (readPath family (cs.takeWhile fun c => !isTail c)),
    query := tail.1, fragment := tail.2 }

/-- What follows two slashes: user, host and port, then the path. -/
def readAuthority (family : Family) (scheme cs : List Char) : Except Fault Url := do
  let authority := cs.takeWhile fun c => !endsAuthority family c
  let rest := cs.dropWhile fun c => !endsAuthority family c
  let (user, place) := splitUser authority
  let credentials := user.getD []
  if user = some [] ∧ place = [] ∧ rest ≠ [] then throw .emptyHost
  let username := credentials.takeWhile (· != ':')
  let password := (credentials.dropWhile (· != ':')).drop 1
  let (hostText, portText) := splitPort false place
  if hostText = [] ∧ (family = .special ∨ portText ≠ [] ∨ username ≠ [] ∨ password ≠ []) then
    throw .emptyHost
  let host ← if family = .other then readPlainHost hostText else readHost hostText
  let (port, more) ← if portText = [] then pure (none, []) else readPort scheme (portText.drop 1)
  return finish family scheme (Percent.encode Percent.inUserSet username)
    (Percent.encode Percent.inUserSet password)
    (if hostText = [] then none else some host) port (more ++ rest)

/-- A drive letter is no host. -/
def isDriveLetter : List Char → Bool
  | [letter, mark] => letter.isAlpha && (mark == ':' || mark == '|')
  | _ => false

/-- Addresses of files. -/
def readFile (cs : List Char) : Except Fault Url :=
  let scheme := "file".toList
  let bare (cs : List Char) : Url := finish .file scheme [] [] none none cs
  match cs with
  | a :: b :: rest =>
    if isSlash .file a && isSlash .file b then do
      let hostText := rest.takeWhile fun c => !endsAuthority .file c
      if isDriveLetter hostText then return bare rest
      let more := rest.dropWhile fun c => !endsAuthority .file c
      if hostText = [] then return bare more
      let host ← readHost hostText
      let named := if host = .domain "localhost".toList then none else some host
      return finish .file scheme [] [] named none more
    else .ok (bare cs)
  | _ => .ok (bare cs)

def parse (text : String) : Except Fault Url :=
  match scheme? (significant text.toList) with
  | none => .error .noBase
  | some (scheme, rest) =>
    match Family.ofScheme scheme with
    | .file => readFile rest
    | .special => readAuthority .special scheme (rest.dropWhile (isSlash .special))
    | .other =>
      match rest with
      | '/' :: '/' :: more => readAuthority .other scheme more
      | '/' :: _ => .ok (finish .other scheme [] [] none none rest)
      | _ =>
        let tail := readTail .other (rest.dropWhile fun c => !isTail c)
        let cs := rest.takeWhile fun c => !isTail c
        .ok { scheme, username := [], password := [], host := none, port := none,
              path := .text (Percent.encode Percent.inControlSet cs),
              query := tail.1, fragment := tail.2 }

end ServerLauncher.Url
