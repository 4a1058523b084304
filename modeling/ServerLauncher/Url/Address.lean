import ServerLauncher.Text.Ranges
import ServerLauncher.Url.Basic

/-!
Numbers of hosts. Version 4 has up to four parts in decimal, octal or hexadecimal, the last one
filling what is left; version 6 has eight pieces, of which one run of zeros may be left out.
-/

namespace ServerLauncher.Url.Address

def isDigit (c : Char) : Bool := '0' ≤ c && c ≤ '9'

def isOctalDigit (c : Char) : Bool := '0' ≤ c && c ≤ '7'

def valueIn (base : Nat) (cs : List Char) : Nat :=
  cs.foldl (fun n c => base * n + Text.hexDigit c) 0

/-- A part of a version 4 number. A prefix without digits is a zero. -/
def part? (cs : List Char) : Option Nat :=
  match cs with
  | [] => none
  | '0' :: 'x' :: ds => if ds.all Percent.isHexDigit then some (valueIn 16 ds) else none
  | '0' :: 'X' :: ds => if ds.all Percent.isHexDigit then some (valueIn 16 ds) else none
  | '0' :: d :: ds => if (d :: ds).all isOctalDigit then some (valueIn 8 (d :: ds)) else none
  | ds => if ds.all isDigit then some (valueIn 10 ds) else none

/-- The pieces between points, without an empty one at the end. -/
def parts (cs : List Char) : List (List Char) :=
  let ps := Text.splitOn '.' cs
  if ps.getLast? = some [] then ps.dropLast else ps

/-- A name whose last part is a number has to be a version 4 number as a whole. -/
def endsInNumber (cs : List Char) : Bool :=
  match (parts cs).getLast? with
  | none => false
  | some last => (!last.isEmpty && last.all isDigit) || (part? last).isSome

/-- The parts before the last one fill one byte each. -/
def joinParts : Nat → List Nat → Option Nat
  | _, [] => none
  | room, [last] => if last < 256 ^ room then some last else none
  | room, p :: ps =>
    if p < 256 then (joinParts (room - 1) ps).map (p * 256 ^ (room - 1) + ·) else none

def ipv4? (cs : List Char) : Option Nat :=
  let ps := parts cs
  if 4 < ps.length then none else (ps.mapM part?).bind (joinParts 4)

/-- One of the four bytes at the end of a version 6 number: no zeros in front. -/
def byte? (cs : List Char) : Option Nat :=
  match cs with
  | [] => none
  | ['0'] => some 0
  | '0' :: _ => none
  | ds => if ds.all isDigit && valueIn 10 ds ≤ 255 then some (valueIn 10 ds) else none

/-- The two pieces written as four bytes. -/
def lastPieces? (cs : List Char) : Option (List Nat) :=
  match (Text.splitOn '.' cs).mapM byte? with
  | some [a, b, c, d] => some [a * 256 + b, c * 256 + d]
  | _ => none

/-- Reads the pieces. `done` holds those read, the last one first, and `gap` how many of them stand
before the run of zeros that is left out. A step takes at least one character. -/
def pieces? : Nat → List Nat → Option Nat → List Char → Option (List Nat × Option Nat)
  | _, done, gap, [] => some (done.reverse, gap)
  | 0, _, _, _ => none
  | fuel + 1, done, gap, c :: cs =>
    let used := done.length + (if gap.isSome then 1 else 0)
    if used = 8 then none
    else if c = ':' then
      if gap.isSome then none else pieces? fuel done (some done.length) cs
    else
      let digits := ((c :: cs).take 4).takeWhile Percent.isHexDigit
      let rest := (c :: cs).drop digits.length
      match rest with
      | '.' :: _ =>
        if digits.isEmpty || 6 < used then none
        else (lastPieces? (c :: cs)).map fun ps => (done.reverse ++ ps, gap)
      | ':' :: [] => none
      | ':' :: more => pieces? fuel (valueIn 16 digits :: done) gap more
      | [] => some ((valueIn 16 digits :: done).reverse, gap)
      | _ => none

def ipv6? (cs : List Char) : Option (List Nat) :=
  let start :=
    match cs with
    | ':' :: ':' :: rest => pieces? cs.length [] (some 0) rest
    | ':' :: _ => none
    | _ => pieces? cs.length [] none cs
  match start with
  | none => none
  | some (ps, some gap) => some (ps.take gap ++ List.replicate (8 - ps.length) 0 ++ ps.drop gap)
  | some (ps, none) => if ps.length = 8 then some ps else none

def ipv4Text (n : Nat) : List Char :=
  (String.intercalate "." ([16777216, 65536, 256, 1].map fun d => toString (n / d % 256))).toList

/-- The start and length of the first longest run of zeros with two pieces or more. -/
def longestRun (ps : List Nat) : Option (Nat × Nat) :=
  let runs := (List.range ps.length).map fun i => (i, ((ps.drop i).takeWhile (· == 0)).length)
  let longest := runs.foldl (fun n r => max n r.2) 0
  if longest < 2 then none else runs.find? (·.2 == longest)

def ipv6Text (ps : List Nat) : List Char :=
  let hex (qs : List Nat) : List Char :=
    (String.intercalate ":" (qs.map fun q => String.ofList (Nat.toDigits 16 q))).toList
  let inner :=
    match longestRun ps with
    | some (start, size) => hex (ps.take start) ++ "::".toList ++ hex (ps.drop (start + size))
    | none => hex ps
  '[' :: inner ++ [']']

end ServerLauncher.Url.Address

namespace ServerLauncher.Url

def Host.text : Host → List Char
  | domain name => name
  | ipv4 address => Address.ipv4Text address
  | ipv6 pieces => Address.ipv6Text pieces

def Path.chars : Path → List Char
  | segments steps => steps.flatMap ('/' :: ·)
  | text cs => cs

def credentials (u : Url) : List Char :=
  if u.username = [] ∧ u.password = [] then []
  else u.username ++ (if u.password = [] then [] else ':' :: u.password) ++ ['@']

def authority (u : Url) : List Char :=
  match u.host with
  | none => if u.scheme = "file".toList then "//".toList else []
  | some host =>
    "//".toList ++ u.credentials ++ host.text ++
      (u.port.map fun n => ':' :: (toString n).toList).getD []

def text (u : Url) : String :=
  String.ofList (u.scheme ++ [':'] ++ u.authority ++ u.path.chars ++
    (u.query.map ('?' :: ·)).getD [] ++ (u.fragment.map ('#' :: ·)).getD [])

end ServerLauncher.Url
