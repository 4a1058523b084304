import ServerLauncher.Files.Tree
import ServerLauncher.Script.Machine
import ServerLauncher.Script.Sum

/-!
Expanding words: parameters, the output of commands and sums are put in, what came in without quotes
is split at blanks, and what looks like a pattern is replaced by the names it fits.
-/

namespace ServerLauncher.Script

/-- Runs a command. -/
abbrev Eval := Command → Machine → Machine × Flow

/-- The fields made of a word so far, and the one that is still open. -/
structure Expansion where
  machine : Machine
  done : List Field := []
  current : Option Field := none

namespace Expansion

def put (x : Expansion) (f : Field) : Expansion :=
  { x with current := some (x.current.getD [] ++ f) }

def close (x : Expansion) : Expansion :=
  { x with done := x.done ++ x.current.toList, current := none }

def isSplit (c : Char) : Bool := c == ' ' || c == '\t' || c == '\n'

def putSplit (x : Expansion) (cs : List Char) : Expansion :=
  cs.foldl (fun x c => if isSplit c then x.close else x.put [(c, false)]) x

def putValue (x : Expansion) (cs : List Char) (quoted : Bool) : Expansion :=
  if quoted then x.put (.ofChars cs true) else x.putSplit cs

/-- Puts in one field for each text, the first one at the open field. -/
def putEach (x : Expansion) (quoted : Bool) : List String → Expansion
  | [] => x
  | [s] => x.putValue s.toList quoted
  | s :: rest => putEach (x.putValue s.toList quoted).close quoted rest

end Expansion

namespace Machine

def param? (m : Machine) (name : List Char) : Option String :=
  match name with
  | ['#'] => some (toString m.args.length)
  | ['?'] => some (toString m.status)
  | ['$'] => some (toString ownNumber)
  | ['!'] => none
  | ['-'] => some (if m.strict then "e" else "")
  | ['@'] => if m.args = [] then none else some (" ".intercalate m.args)
  | ['*'] => if m.args = [] then none else some (" ".intercalate m.args)
  | ['0'] => some m.name
  | _ =>
    if name.all Char.isDigit then
      m.args[name.foldl (fun n c => 10 * n + (c.toNat - 48)) 0 - 1]?
    else if name = "PPID".toList then some (toString parentNumber)
    else m.get? (String.ofList name)

/-- What comes back of a script that runs on its own: all that can be seen from outside. -/
def absorb (outer inner : Machine) : Machine :=
  { inner with
    cwd := outer.cwd, name := outer.name, args := outer.args, vars := outer.vars,
    functions := outer.functions, traps := outer.traps, strict := outer.strict,
    sinks := outer.sinks }

/-- The output of a command, without line ends at its end. -/
def outputOf (m : Machine) (eval : Eval) (source : List Char) : Machine × List Char :=
  let inner := { (m.setSink 1 .pipe) with piped := [] }
  let r := (eval (.subshell (.source source)) inner).1
  let text := Text.loose r.piped
  ({ m.absorb r with piped := m.piped, substituted := some r.status },
    (text.toList.reverse.dropWhile (· == '\n')).reverse)

end Machine

/-- The signs of a rule, and whether an empty value counts as unset. -/
def splitRule (rule : List Char) : Bool × List Char × List Char :=
  let (colon, rest) : Bool × List Char :=
    match rule with
    | ':' :: rest => (true, rest)
    | _ => (false, rule)
  match rest with
  | '%' :: '%' :: more => (colon, ['%', '%'], more)
  | '#' :: '#' :: more => (colon, ['#', '#'], more)
  | c :: more => (colon, [c], more)
  | [] => (colon, [], [])

/-- The first cut at which what is cut off fits a pattern. -/
def cut? (cuts : List Nat) (pattern : Field) (piece rest : Nat → List Char) : Option (List Char) :=
  (cuts.find? fun i => pattern.fits (piece i)).map rest

/-- Takes a piece that fits a pattern off the start or the end of a value. -/
def strip (sign : List Char) (pattern : Field) (value : List Char) : List Char :=
  let cuts := List.range (value.length + 1)
  let kept : Option (List Char) :=
    match sign with
    | ['#'] => cut? cuts pattern value.take value.drop
    | ['#', '#'] => cut? cuts.reverse pattern value.take value.drop
    | ['%'] => cut? cuts.reverse pattern value.drop value.take
    | _ => cut? cuts pattern value.drop value.take
  kept.getD value

/-- Expands the parts of a word; rules inside of rules are followed to the given depth. -/
def expandParts (eval : Eval) : Nat → Word → Expansion → Expansion
  | 0, _, x => x
  | n + 1, parts, x =>
    parts.foldl (fun x part =>
      match part with
      | .text cs quoted => if cs = [] ∧ quoted = false then x else x.put (.ofChars cs quoted)
      | .unclosed => x
      | .length name =>
        x.putValue (toString ((x.machine.param? name).getD "").length).toList false
      | .command source quoted =>
        let (machine, text) := x.machine.outputOf eval source
        { x with machine }.putValue text quoted
      | .sum source quoted =>
        let value (name : String) : Int :=
          (((x.machine.get? name).getD "").toInt?).getD 0
        match Sum.eval? value source with
        | some v => x.putValue (toString v).toList quoted
        | none => { x with machine := x.machine.abort "arithmetic expression" }
      | .param name rule quoted =>
        let set := x.machine.param? name
        let all := name = ['@'] ∨ (name = ['*'] ∧ quoted = false)
        let putOld (x : Expansion) : Expansion :=
          if all then x.putEach quoted x.machine.args
          else x.putValue (set.getD "").toList quoted
        let (colon, sign, text) := splitRule rule
        let usable := set.any fun s => !(colon && s == "")
        let inner (x : Expansion) : Expansion :=
          expandParts eval n (Lexer.ruleParts quoted text) x
        let innerField (x : Expansion) : Machine × Field :=
          let r := (inner { machine := x.machine }).close
          (r.machine, (r.done.intersperse [(' ', false)]).flatten)
        match sign with
        | [] => putOld x
        | ['-'] => if usable then putOld x else inner x
        | ['+'] => if usable then inner x else if quoted then x.put [] else x
        | ['='] =>
          if usable then putOld x
          else
            let (m, f) := innerField x
            { x with machine := m.set (String.ofList name) f.text }.putValue f.text.toList quoted
        | ['?'] =>
          if usable then putOld x
          else
            let (m, f) := innerField x
            let reason := if f = [] then "parameter not set" else f.text
            { x with machine := m.abort (String.ofList name ++ ": " ++ reason) }
        | _ =>
          let (m, f) := innerField x
          { x with machine := m }.putValue (strip sign f (set.getD "").toList) quoted) x

/-- The depth to which rules are followed inside of rules. -/
def ruleDepth : Nat := 20

def expandField (eval : Eval) (m : Machine) (w : Word) : Machine × Field :=
  let x := (expandParts eval ruleDepth w { machine := m }).close
  (x.machine, (x.done.intersperse [(' ', false)]).flatten)

def expandText (eval : Eval) (m : Machine) (w : Word) : Machine × String :=
  let (m, f) := expandField eval m w
  (m, f.text)

/-- The names in the work directory that a pattern fits; without any the pattern stays as it is. -/
def expandNames (m : Machine) (f : Field) : List String :=
  let names := m.tree.entries.filterMap fun p =>
    match p.1 with
    | name :: dir => if dir = m.cwd && !name.startsWith "." then some name else none
    | [] => none
  let found := names.filter fun name => f.fits name.toList
  if f.hasPattern && !found.isEmpty then
    found.mergeSort fun a b => Tree.bytesBefore a.toUTF8.toList b.toUTF8.toList
  else [f.text]

/-- The texts that words stand for. -/
def expandWords (eval : Eval) (m : Machine) (ws : List Word) : Machine × List String :=
  ws.foldl (fun (m, texts) w =>
    let x := (expandParts eval ruleDepth w { machine := m }).close
    (x.machine, texts ++ x.done.flatMap (expandNames x.machine))) (m, [])

end ServerLauncher.Script
