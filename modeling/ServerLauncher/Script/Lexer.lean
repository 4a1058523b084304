import ServerLauncher.Text.Ranges

/-!
Shell scripts as words, redirections and commands, and cutting a text into words, operators and line
ends. Text inside a substitution is kept as it is written and read when the substitution takes
place.
-/

namespace ServerLauncher.Script

/-- A part of a word. Quoted parts are neither split nor matched against names; an `unclosed` one
stands at the end of a text whose quotes are open. -/
inductive Part where
  | text (cs : List Char) (quoted : Bool)
  | param (name rule : List Char) (quoted : Bool)
  | length (name : List Char)
  | command (source : List Char) (quoted : Bool)
  | sum (source : List Char) (quoted : Bool)
  | unclosed
  deriving DecidableEq, Repr

abbrev Word := List Part

/-- Which way the data go. -/
inductive Direction where
  | read
  | write
  | extend
  | copy
  deriving DecidableEq, Repr

structure Redirect where
  number : Nat
  direction : Direction
  target : Word
  deriving DecidableEq, Repr

inductive Command where
  | nothing
  | source (text : List Char)
  | simple (assigns : List (String × Word)) (words : List Word) (redirects : List Redirect)
  | pipe (left right : Command)
  | negate (c : Command)
  | both (a b : Command)
  | either (a b : Command)
  | sequence (a b : Command)
  | background (c : Command)
  | branch (test yes no : Command)
  | repeated (whenTrue : Bool) (test body : Command)
  | each (name : String) (words : List Word) (body : Command)
  | choose (subject : Word) (arms : List (List Word × Command))
  | subshell (c : Command)
  | redirected (c : Command) (redirects : List Redirect)
  | define (name : String) (body : Command)

inductive Token where
  | word (w : Word)
  | op (s : String)
  | number (n : Nat)
  | line
  | unclosed
  deriving DecidableEq, Repr

end ServerLauncher.Script

namespace ServerLauncher.Script.Lexer

def isBlank (c : Char) : Bool := c == ' ' || c == '\t'

def isNameStart (c : Char) : Bool := c.isAlpha || c == '_'

def isNameChar (c : Char) : Bool := c.isAlphanum || c == '_'

/-- Parameters named by one sign. -/
def isSign (c : Char) : Bool :=
  "#@*?$!-".toList.contains c

def isBreak (c : Char) : Bool :=
  " \t\n;&|<>()".toList.contains c

/-- The text up to the closing bracket, with nested pairs and quotes skipped, and what follows. -/
def enclosed (open? close : Char) : Nat → Option Char → List Char → List Char × List Char
  | _, _, [] => ([], [])
  | depth, some '\x22', '\\' :: c :: rest =>
    let r := enclosed open? close depth (some '\x22') rest
    ('\\' :: c :: r.1, r.2)
  | depth, some q, c :: rest =>
    let r := enclosed open? close depth (if c = q then none else some q) rest
    (c :: r.1, r.2)
  | depth, none, '\\' :: c :: rest =>
    let r := enclosed open? close depth none rest
    ('\\' :: c :: r.1, r.2)
  | depth, none, c :: rest =>
    if c = close ∧ depth = 0 then ([], rest)
    else
      let deeper := if c = open? then depth + 1 else if c = close then depth - 1 else depth
      let quote := if c = '\x27' ∨ c = '\x22' then some c else none
      let r := enclosed open? close deeper quote rest
      (c :: r.1, r.2)

/-- The text up to a closing mark. A backslash keeps the mark from closing. -/
def marked (mark : Char) : List Char → List Char × List Char
  | [] => ([], [])
  | '\\' :: c :: rest =>
    let r := marked mark rest
    (if c = mark ∨ c = '\\' ∨ c = '$' then c :: r.1 else '\\' :: c :: r.1, r.2)
  | c :: rest =>
    if c = mark then ([], rest)
    else
      let r := marked mark rest
      (c :: r.1, r.2)

/-- What a dollar sign stands for, given what follows it. -/
def dollar (quoted : Bool) (cs : List Char) : Part × List Char :=
  match cs with
  | '(' :: '(' :: rest =>
    let r := enclosed '(' ')' 0 none rest
    (.sum r.1 quoted, r.2.drop 1)
  | '(' :: rest =>
    let r := enclosed '(' ')' 0 none rest
    (.command r.1 quoted, r.2)
  | '\x7b' :: rest =>
    let r := enclosed '\x7b' '\x7d' 0 none rest
    match r.1 with
    | '#' :: c :: more => (.length (c :: more), r.2)
    | c :: more =>
      if isNameStart c then
        (.param (r.1.takeWhile isNameChar) (r.1.dropWhile isNameChar) quoted, r.2)
      else if c.isDigit then
        (.param (r.1.takeWhile Char.isDigit) (r.1.dropWhile Char.isDigit) quoted, r.2)
      else (.param [c] more quoted, r.2)
    | [] => (.text [] quoted, r.2)
  | c :: rest =>
    if isNameStart c then (.param (cs.takeWhile isNameChar) [] quoted, cs.dropWhile isNameChar)
    else if c.isDigit || isSign c then (.param [c] [] quoted, rest)
    else (.text ['$'] quoted, cs)
  | [] => (.text ['$'] quoted, [])

/-- The parts of a text in double quotes, which may lack their end. -/
def quotedParts : Nat → List Char → Word × List Char
  | 0, cs => ([], cs)
  | _, [] => ([.unclosed], [])
  | n + 1, c :: rest =>
    if c = '\x22' then ([], rest)
    else
      let (part, more) : Part × List Char :=
        if c = '$' then dollar true rest
        else if c = '\x60' then
          let r := marked '\x60' rest
          (.command r.1 true, r.2)
        else if c = '\\' then
          match rest with
          | '\n' :: more => (.text [] true, more)
          | d :: more =>
            if "$\x60\x22\\".toList.contains d then (.text [d] true, more)
            else (.text ['\\', d] true, more)
          | [] => (.text ['\\'] true, [])
        else (.text [c] true, rest)
      let r := quotedParts n more
      (part :: r.1, r.2)

def word : Nat → List Char → Word × List Char
  | 0, cs => ([], cs)
  | _, [] => ([], [])
  | n + 1, c :: rest =>
    if isBreak c then ([], c :: rest)
    else
      let (parts, more) : Word × List Char :=
        if c = '\x27' then
          let text : Part := .text (rest.takeWhile (· != '\x27')) true
          match rest.dropWhile (· != '\x27') with
          | _ :: more => ([text], more)
          | [] => ([text, .unclosed], [])
        else if c = '\x22' then
          let r := quotedParts (rest.length + 1) rest
          (if r.1 = [] then [.text [] true] else r.1, r.2)
        else if c = '$' then
          let r := dollar false rest
          ([r.1], r.2)
        else if c = '\x60' then
          let r := marked '\x60' rest
          ([.command r.1 false], r.2)
        else if c = '\\' then
          match rest with
          | '\n' :: more => ([], more)
          | d :: more => ([.text [d] true], more)
          | [] => ([.text ['\\'] true], [])
        else
          let plain (d : Char) : Bool := !isBreak d && !"\x27\x22$\x60\\".toList.contains d
          ([.text (c :: rest.takeWhile plain) false], rest.dropWhile plain)
      let r := word n more
      (parts ++ r.1, r.2)

/-- The parts of a text in which blanks and operators are nothing special. -/
def loose : Nat → List Char → Word
  | 0, _ => []
  | _, [] => []
  | n + 1, c :: rest =>
    if isBreak c then .text [c] false :: loose n rest
    else
      let r := word (rest.length + 2) (c :: rest)
      r.1 ++ loose n r.2

/-- The text of a rule inside a parameter, which may stand in double quotes. -/
def ruleParts (quoted : Bool) (cs : List Char) : Word :=
  if quoted then
    ((quotedParts (cs.length + 1) (cs.filter (· != '\x22'))).1).filter (· != .unclosed)
  else loose (cs.length + 1) cs

/-- The operators, longer ones before those they start with. -/
def operators : List String :=
  ["&&", "||", ";;", ">>", "<&", ">&", ">|", "&", "|", ";", "<", ">", "(", ")"]

def operator? (cs : List Char) : Option (String × List Char) :=
  (operators.find? (fun s => s.toList.isPrefixOf cs)).map fun s => (s, cs.drop s.length)

/-- The next token, if the text holds one. -/
def next (cs : List Char) : Option (Token × List Char) :=
  match cs with
  | [] => none
  | '\n' :: rest => some (.line, rest)
  | _ =>
    let digits := cs.takeWhile Char.isDigit
    let after := cs.dropWhile Char.isDigit
    if digits ≠ [] ∧ (after.head? = some '<' ∨ after.head? = some '>') then
      some (.number (digits.foldl (fun n c => 10 * n + (c.toNat - 48)) 0), after)
    else
      match operator? cs with
      | some (s, rest) => some (.op s, rest)
      | none =>
        let r := word (cs.length + 1) cs
        some (if r.1.contains .unclosed then .unclosed else .word r.1, r.2)

/-- Skips blanks, joined lines and a comment. -/
def skip : List Char → List Char
  | '\\' :: '\n' :: rest => skip rest
  | c :: rest =>
    if isBlank c then skip rest
    else if c = '#' then rest.dropWhile (· != '\n')
    else c :: rest
  | [] => []

def tokensWithin : Nat → List Char → List Token
  | 0, _ => []
  | n + 1, cs =>
    match next (skip cs) with
    | some (t, rest) => t :: tokensWithin n rest
    | none => []

def tokens (cs : List Char) : List Token :=
  tokensWithin (cs.length + 1) cs

end ServerLauncher.Script.Lexer
