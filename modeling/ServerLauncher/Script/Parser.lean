import ServerLauncher.Script.Lexer

/-!
Reading commands from tokens. A script is read one line at a time, so that what stands before a
fault still runs; a line ends where no construct is open.
-/

namespace ServerLauncher.Script.Parser

/-- A word written without any quotes or dollar signs. -/
def plain? : Token → Option String
  | .word [.text cs false] => some (String.ofList cs)
  | _ => none

def reserved : List String :=
  ["if", "then", "elif", "else", "fi", "while", "until", "for", "in", "do", "done", "case", "esac",
    "\x7b", "\x7d", "!"]

def skipLines : List Token → List Token
  | .line :: rest => skipLines rest
  | ts => ts

/-- Skips the given reserved word or operator, after line ends. -/
def expect (s : String) (ts : List Token) : Option (List Token) :=
  match skipLines ts with
  | t :: rest => if plain? t = some s ∨ t = .op s then some rest else none
  | [] => none

def assignment? : Word → Option (String × Word)
  | .text cs false :: parts =>
    let name := cs.takeWhile Lexer.isNameChar
    match name, cs.dropWhile Lexer.isNameChar with
    | c :: _, '=' :: value =>
      if Lexer.isNameStart c then
        some (String.ofList name, if value = [] then parts else .text value false :: parts)
      else none
    | _, _ => none
  | _ => none

def direction? : String → Option Direction
  | "<" => some .read
  | ">" => some .write
  | ">|" => some .write
  | ">>" => some .extend
  | ">&" => some .copy
  | "<&" => some .copy
  | _ => none

/-- The stream that an operator without a number means. -/
def defaultNumber (s : String) : Nat :=
  if s.startsWith "<" then 0 else 1

def redirect? : List Token → Option (Redirect × List Token)
  | .number n :: .op s :: .word w :: rest => (direction? s).map fun d => (⟨n, d, w⟩, rest)
  | .op s :: .word w :: rest => (direction? s).map fun d => (⟨defaultNumber s, d, w⟩, rest)
  | _ => none

def redirects : Nat → List Token → List Redirect × List Token
  | 0, ts => ([], ts)
  | n + 1, ts =>
    match redirect? ts with
    | some (r, rest) =>
      let more := redirects n rest
      (r :: more.1, more.2)
    | none => ([], ts)

/-- The words, assignments and redirections of a simple command. -/
def simple : Nat → List Token → List (String × Word) × List Word × List Redirect × List Token
  | 0, ts => ([], [], [], ts)
  | n + 1, ts =>
    match redirect? ts with
    | some (r, rest) =>
      let (assigns, words, rs, more) := simple n rest
      (assigns, words, r :: rs, more)
    | none =>
      match ts with
      | .word w :: rest =>
        let (assigns, words, rs, more) := simple n rest
        match assignment? w with
        | some a => (a :: assigns, words, rs, more)
        | none => ([], w :: assigns.map (fun a => .text (a.1 ++ "=").toList false :: a.2) ++ words,
            rs, more)
      | _ => ([], [], [], ts)

def wordList : List Token → List Word × List Token
  | .word w :: rest =>
    let r := wordList rest
    (w :: r.1, r.2)
  | ts => ([], ts)

/-- The patterns of an arm, up to the closing bracket. -/
def patterns : List Token → Option (List Word × List Token)
  | .word w :: .op "|" :: rest => (patterns rest).map fun r => (w :: r.1, r.2)
  | .word w :: .op ")" :: rest => some ([w], rest)
  | _ => none

/-- The words that end a list of commands. -/
def isClosing (t : Token) : Bool :=
  t == .op ")" || t == .op ";;" ||
    (plain? t).any (["then", "elif", "else", "fi", "do", "done", "esac", "\x7d"].contains ·)

mutual

/-- Commands up to the end of the line, or up to a closing word where `deep` says that a construct
is open. -/
def list (deep : Bool) : Nat → List Token → Option (Command × List Token)
  | 0, _ => none
  | n + 1, ts => do
    let ts := if deep then skipLines ts else ts
    match ts with
    | [] => return (.nothing, [])
    | t :: _ =>
      if isClosing t then
        if deep then return (.nothing, ts) else none
      else
        let (c, rest) ← chain n ts
        match rest with
        | .op ";" :: rest =>
          let (d, rest) ← list deep n rest
          return (.sequence c d, rest)
        | .op "&" :: rest =>
          let (d, rest) ← list deep n rest
          return (.sequence (.background c) d, rest)
        | .line :: more =>
          if deep then
            let (d, rest) ← list deep n more
            return (.sequence c d, rest)
          else return (c, rest)
        | [] => return (c, [])
        | t :: _ => if deep && isClosing t then return (c, rest) else none

/-- Pipelines joined by `&&` and `||`. -/
def chain : Nat → List Token → Option (Command × List Token)
  | 0, _ => none
  | n + 1, ts => do
    let (c, rest) ← pipeline n ts
    chainRest n c rest

def chainRest : Nat → Command → List Token → Option (Command × List Token)
  | 0, _, _ => none
  | n + 1, c, ts =>
    match ts with
    | .op "&&" :: rest => do
      let (d, rest) ← pipeline n (skipLines rest)
      chainRest n (.both c d) rest
    | .op "||" :: rest => do
      let (d, rest) ← pipeline n (skipLines rest)
      chainRest n (.either c d) rest
    | _ => some (c, ts)

def pipeline : Nat → List Token → Option (Command × List Token)
  | 0, _ => none
  | n + 1, ts =>
    match ts with
    | t :: rest =>
      if plain? t = some "!" then do
        let (c, rest) ← pipeline n rest
        return (.negate c, rest)
      else do
        let (c, rest) ← command n ts
        match rest with
        | .op "|" :: rest =>
          let (d, rest) ← pipeline n (skipLines rest)
          return (.pipe c d, rest)
        | _ => return (c, rest)
    | [] => none

/-- A construct or a simple command, with the redirections that follow it. -/
def command : Nat → List Token → Option (Command × List Token)
  | 0, _ => none
  | n + 1, ts =>
    match ts with
    | [] => none
    | .op "(" :: rest => do
      let (c, rest) ← list true n rest
      let rest ← expect ")" rest
      return redirect n (.subshell c) rest
    | t :: rest =>
      match plain? t with
      | some "\x7b" => do
        let (c, rest) ← list true n rest
        let rest ← expect "\x7d" rest
        return redirect n c rest
      | some "if" => do
        let (c, rest) ← branch n rest
        return redirect n c rest
      | some "while" => do
        let (c, rest) ← loop true n rest
        return redirect n c rest
      | some "until" => do
        let (c, rest) ← loop false n rest
        return redirect n c rest
      | some "for" => do
        let (c, rest) ← each n rest
        return redirect n c rest
      | some "case" => do
        let (c, rest) ← choose n rest
        return redirect n c rest
      | some name =>
        if reserved.contains name then none
        else
          match rest with
          | .op "(" :: .op ")" :: rest => do
            let (body, rest) ← command n (skipLines rest)
            return (.define name body, rest)
          | _ => plainCommand n ts
      | none => plainCommand n ts

def redirect (n : Nat) (c : Command) (ts : List Token) : Command × List Token :=
  match redirects n ts with
  | ([], rest) => (c, rest)
  | (rs, rest) => (.redirected c rs, rest)

def plainCommand (n : Nat) (ts : List Token) : Option (Command × List Token) :=
  match simple (n + 1) ts with
  | ([], [], [], _) => none
  | (assigns, words, rs, rest) => some (.simple assigns words rs, rest)

/-- A test, what is done if it holds, and what is done if not. -/
def branch : Nat → List Token → Option (Command × List Token)
  | 0, _ => none
  | n + 1, ts => do
    let (test, rest) ← list true n ts
    let rest ← expect "then" rest
    let (yes, rest) ← list true n rest
    match rest with
    | t :: more =>
      match plain? t with
      | some "elif" => do
        let (no, rest) ← branch n more
        return (.branch test yes no, rest)
      | some "else" => do
        let (no, rest) ← list true n more
        let rest ← expect "fi" rest
        return (.branch test yes no, rest)
      | some "fi" => return (.branch test yes .nothing, more)
      | _ => none
    | [] => none

def body : Nat → List Token → Option (Command × List Token)
  | 0, _ => none
  | n + 1, ts => do
    let rest ← expect "do" ts
    let (c, rest) ← list true n rest
    let rest ← expect "done" rest
    return (c, rest)

def loop (whenTrue : Bool) : Nat → List Token → Option (Command × List Token)
  | 0, _ => none
  | n + 1, ts => do
    let (test, rest) ← list true n ts
    let (c, rest) ← body n rest
    return (.repeated whenTrue test c, rest)

def each : Nat → List Token → Option (Command × List Token)
  | 0, _ => none
  | n + 1, ts =>
    match ts with
    | t :: rest => do
      let name ← plain? t
      let all : Word := [.param ['@'] [] true]
      let (words, rest) :=
        match expect "in" rest with
        | some rest => wordList rest
        | none => ([all], rest)
      let rest := if rest.head? = some (.op ";") then rest.drop 1 else rest
      let (c, rest) ← body n rest
      return (.each name words c, rest)
    | [] => none

def choose : Nat → List Token → Option (Command × List Token)
  | 0, _ => none
  | n + 1, ts =>
    match ts with
    | .word w :: rest => do
      let rest ← expect "in" rest
      let (arms, rest) ← arms n rest
      return (.choose w arms, rest)
    | _ => none

def arms : Nat → List Token → Option (List (List Word × Command) × List Token)
  | 0, _ => none
  | n + 1, ts =>
    match skipLines ts with
    | t :: rest =>
      if plain? t = some "esac" then some ([], rest)
      else do
        let (ps, rest) ← patterns (if t = .op "(" then rest else t :: rest)
        let (c, rest) ← list true n rest
        let rest := skipLines rest
        let rest := if rest.head? = some (.op ";;") then rest.drop 1 else rest
        let (more, rest) ← arms n rest
        return ((ps, c) :: more, rest)
    | [] => none

end

/-- The first line of a script that holds a command, and what follows it. -/
def line (ts : List Token) : Option (Command × List Token) :=
  let ts := skipLines ts
  list false (8 * ts.length + 8) ts

end ServerLauncher.Script.Parser
