import ServerLauncher.Script.Expansion
import ServerLauncher.Script.Parser
import ServerLauncher.Script.Utility

/-!
Running commands. Each command is run by what it does with a way to run the commands inside it; a
script that goes on for too many of these levels counts as one that never ends.
-/

namespace ServerLauncher.Script

/-- Names of signals in the order of their numbers, from one on. -/
def signalNames : List String :=
  ["HUP", "INT", "QUIT", "ILL", "TRAP", "ABRT", "BUS", "FPE", "KILL", "USR1", "SEGV", "USR2",
    "PIPE", "ALRM", "TERM", "STKFLT", "CHLD", "CONT", "STOP", "TSTP", "TTIN", "TTOU", "URG", "XCPU",
    "XFSZ", "VTALRM", "PROF", "WINCH", "IO", "PWR", "SYS"]

def signal? (s : String) : Option Nat :=
  match s.toNat? with
  | some n => if n ≤ 64 then some n else none
  | none =>
    let name := if s.startsWith "SIG" then String.ofList (s.toList.drop 3) else s
    (signalNames.findIdx? (· == name)).map (· + 1)

/-- What a signal does to a program that has not prepared for it. -/
inductive Reaction where
  | nothing
  | stops
  | dies
  deriving DecidableEq, Repr

def reaction (n : Nat) : Reaction :=
  if n = 0 ∨ n = 17 ∨ n = 18 ∨ n = 23 ∨ n = 28 then .nothing
  else if 19 ≤ n ∧ n ≤ 22 then .stops
  else .dies

namespace Machine

def signalSelf (eval : Eval) (m : Machine) (n : Nat) : Machine × Flow :=
  let traps := m.traps.filter fun t => signal? t.1 == some n
  match if n = 9 ∨ n = 19 then none else traps.head? with
  | some (_, "") => (m, .next)
  | some (_, action) => eval (.source action.toList) m
  | none =>
    match reaction n with
    | .nothing => (m, .next)
    | .stops => m.hang
    | .dies => (m, .ended (.signal n))

/-- The script signals the program that started it. A broken pipe is nothing to that program. -/
def signalParent (m : Machine) (n : Nat) : Machine × Flow :=
  if n = 13 then (m, .next)
  else if n = 2 ∧ m.patient then ({ m with interrupted := true }, .next)
  else
    match reaction n with
    | .nothing => (m, .next)
    | .stops => m.hang
    | .dies => (m, .raised n)

/-- Sends a signal to programs given by their numbers. -/
def signalAll (eval : Eval) (n : Nat) : List String → Machine → Machine × Flow
  | [], m => (m, .next)
  | target :: rest, m =>
    let (m, flow) :=
      if target = toString ownNumber then signalSelf eval m n
      else if target = toString parentNumber then signalParent m n
      else (m.complain "kill: No such process" 1, .next)
    if flow = .next then signalAll eval n rest m else (m, flow)

def kill (eval : Eval) (args : List String) (m : Machine) : Machine × Flow :=
  let m := { m with status := 0 }
  let send (name : String) (targets : List String) : Machine × Flow :=
    match signal? name with
    | some n => signalAll eval n targets m
    | none => (m.complain "kill: bad signal" 2, .next)
  match args with
  | "-s" :: name :: targets => send name targets
  | "-n" :: name :: targets => send name targets
  | "--" :: targets => send "TERM" targets
  | first :: targets =>
    if first.startsWith "-" then send (String.ofList (first.toList.drop 1)) targets
    else send "TERM" args
  | [] => (m.complain "kill: usage" 2, .next)

/-- Opens the target of a redirection. Nothing is left of an old content unless it is extended. -/
def openSink (m : Machine) (path : String) (extend : Bool) : Except FileError (Machine × Sink) :=
  if path = "/dev/null" then .ok (m, .nowhere)
  else if path = "/dev/stdout" then .ok (m, (m.sinks.lookup 1).getD .nowhere)
  else if path = "/dev/stderr" then .ok (m, (m.sinks.lookup 2).getD .nowhere)
  else
    match m.tree.openAppend m.cwd path with
    | .error e => .error e
    | .ok (tree, k) =>
      let tree := if extend then tree else
        tree.modify k fun
          | .file mode _ => .file mode []
          | e => e
      .ok ({ m with tree }, .file k)

/-- Redirects one stream, and says whether that worked. -/
def redirect (eval : Eval) (m : Machine) (r : Redirect) : Machine × Bool :=
  let (m, target) := expandText eval m r.target
  let missing := if r.direction = .read then "No such file" else "Directory nonexistent"
  let refuse (verb : String) (e : FileError) : Machine × Bool :=
    let text :=
      match e with
      | .os e =>
        if e = .noEntry then missing else e.description
      | e => e.text
    (m.complain ("cannot " ++ verb ++ " " ++ target ++ ": " ++ text) 2, false)
  let write (extend : Bool) : Machine × Bool :=
    match m.openSink target extend with
    | .ok (m, sink) => (m.setSink r.number sink, true)
    | .error e => refuse "create" e
  match r.direction with
  | .write => write false
  | .extend => write true
  | .copy =>
    match target.toNat? with
    | some n => (m.setSink r.number ((m.sinks.lookup n).getD .nowhere), true)
    | none => (m.setSink r.number .nowhere, true)
  | .read =>
    if target = "/dev/null" then ({ m with input := [] }, true)
    else
      match m.tree.stat m.cwd target with
      | .ok (.file mode content) =>
        if Utility.permits 256 (.file mode content) then ({ m with input := content }, true)
        else refuse "open" (.os .denied)
      | .ok _ => ({ m with input := [] }, true)
      | .error e => refuse "open" e

def redirectAll (eval : Eval) : List Redirect → Machine → Machine × Bool
  | [], m => (m, true)
  | r :: rest, m =>
    match m.redirect eval r with
    | (m, true) => redirectAll eval rest m
    | (m, false) => (m, false)

/-- Puts the streams back to where they went before. -/
def restoreStreams (m old : Machine) (redirects : List Redirect) : Machine :=
  let read := redirects.any (·.direction == .read)
  { m with sinks := old.sinks, input := if read then old.input else m.input }

def assign (eval : Eval) (exported : Bool) (assigns : List (String × Word)) (m : Machine) :
    Machine :=
  assigns.foldl (fun m a =>
    let (m, value) := expandText eval m a.2
    let m := m.set a.1 value
    if exported then m.exportName a.1 else m) m

/-- Reads a line of the input into variables, the last of which gets all that is left. -/
def readLine (args : List String) (m : Machine) : Machine :=
  let names := Utility.operands args
  let line := m.input.takeWhile (· != 10)
  let rest := m.input.dropWhile (· != 10)
  let text := (Text.loose line).toList
  let rec give : List String → List Char → Machine → Machine
    | [], _, m => m
    | [name], cs, m =>
      m.set name (String.ofList ((cs.dropWhile Expansion.isSplit).reverse.dropWhile
        Expansion.isSplit).reverse)
    | name :: more, cs, m =>
      let cs := cs.dropWhile Expansion.isSplit
      give more (cs.dropWhile (!Expansion.isSplit ·))
        (m.set name (String.ofList (cs.takeWhile (!Expansion.isSplit ·))))
  let m := give names text m
  { m with input := rest.drop 1, status := if rest = [] then 1 else 0 }

/-- Takes settings of the shell, or new arguments for the script. -/
def setOptions : List String → Machine → Machine
  | [], m => { m with status := 0 }
  | "--" :: args, m => { m with args, status := 0 }
  | word :: rest, m =>
    if word.startsWith "-" || word.startsWith "+" then
      let strict :=
        if word.toList.contains 'e' then decide (word.toList.head? = some '-') else m.strict
      setOptions rest { m with strict }
    else { m with args := word :: rest, status := 0 }

def changeDir (args : List String) (m : Machine) : Machine :=
  let path := args.headD ((m.get? "HOME").getD "/")
  match m.tree.locate m.cwd path with
  | .ok k =>
    if m.tree.isDir k then { m with cwd := k, status := 0 }
    else m.complain ("cd: can't cd to " ++ path) 2
  | .error _ => m.complain ("cd: can't cd to " ++ path) 2

def exportAll (args : List String) (m : Machine) : Machine :=
  args.foldl (fun m word =>
    let name := String.ofList (word.toList.takeWhile (· != '='))
    match word.toList.dropWhile (· != '=') with
    | _ :: value => (m.set name (String.ofList value)).exportName name
    | [] => m.exportName name) { m with status := 0 }

def setTraps (args : List String) (m : Machine) : Machine :=
  let m := { m with status := 0 }
  match args with
  | [] => m
  | [name] => { m with traps := m.traps.filter (·.1 != name) }
  | action :: names =>
    let others := m.traps.filter fun t => !names.contains t.1
    { m with traps := if action = "-" then others else others ++ names.map fun s => (s, action) }

def levels (args : List String) : Nat :=
  max 1 (((args.head?).bind String.toNat?).getD 1)

/-- Ends the script, or the function, with a status. -/
def finish (args : List String) (m : Machine) (flow : Flow) : Machine × Flow :=
  match args with
  | [] => (m, flow)
  | word :: _ =>
    match word.toNat? with
    | some n => ({ m with status := n % 256 }, flow)
    | none => (m.complain ("exit: Illegal number: " ++ word) 2, .exit)

/-- Runs a script of its own. What ends it from inside is its status to the outside. -/
def separately (m : Machine) (r : Machine × Flow) : Machine × Flow :=
  let outer := m.absorb r.1
  match r.2 with
  | .ended (.signal n) => ({ outer with status := 128 + n }, .next)
  | .raised n => (outer, .ended (.signal n))
  | .ended e => (outer, .ended e)
  | .late => (outer, .late)
  | _ => (outer, .next)

def leave (eval : Eval) (r : Machine × Flow) : Machine × Flow :=
  match r.2 with
  | .ended _ => r
  | .late => r
  | .raised _ => r
  | _ =>
    match r.1.traps.find? fun t => t.1 == "EXIT" || t.1 == "0" with
    | some (_, action) =>
      let status := r.1.status
      let (m, flow) := eval (.source action.toList) { r.1 with traps := [] }
      match flow with
      | .ended _ => (m, flow)
      | .late => (m, flow)
      | .raised _ => (m, flow)
      | .exit => (m, .exit)
      | _ => ({ m with status }, .exit)
    | none => r

/-- Runs the shell on a text with settings of its own. -/
def runText (eval : Eval) (m : Machine) (name : String) (args : List String) (text : List Char) :
    Machine × Flow :=
  let inner := { m with
    name, args, functions := [], traps := [], line := 1, loops := 0,
    vars := m.vars.filter (·.exported), status := 0 }
  leave eval (eval (.source text) inner)

/-- The shell as a program: a text after `-c`, or the path of a script. -/
def shell (eval : Eval) (args : List String) (m : Machine) : Machine × Flow :=
  let flags := args.takeWhile fun a => a.startsWith "-" && a != "-" && a != "--"
  let words := (args.drop flags.length).dropWhile (· == "--")
  let m := { m with strict := flags.any fun f => f.toList.contains 'e' }
  match words with
  | [] => ({ m with status := 0 }, .next)
  | first :: rest =>
    if flags.any fun f => f.toList.contains 'c' then
      runText eval m (rest.headD "sh") rest.tail first.toList
    else
      match m.tree.stat m.cwd first with
      | .ok (.file mode content) =>
        if Utility.permits 256 (.file mode content) then
          runText eval m first rest (Text.loose content).toList
        else ({ m with name := "sh" }.complain ("0: cannot open " ++ first) 2, .next)
      | _ => ({ m with name := "sh" }.complain ("0: cannot open " ++ first) 2, .next)

/-- Runs a program of the host as a process of its own. -/
def runProgram (eval : Eval) (name : String) (args : List String) (m : Machine) : Machine × Flow :=
  if name = "sh" ∨ name = "dash" ∨ name = "bash" then shell eval args m
  else if name = "kill" then kill eval args m
  else
    match Utility.all.lookup name with
    | some utility => utility args m
    | none => (m.complain (name ++ ": not found") 127, .next)

/-- Starts a file as a process of its own, or says why that fails. -/
def startFile (eval : Eval) (path : String) (args : List String) (m : Machine) : Machine × Flow :=
  match load m.tree m.cwd (resolve path) args with
  | .ok (name, args) => runProgram eval name args m
  | .error e =>
    if e = .os .denied then (m.complain (path ++ ": Permission denied") 126, .next)
    else if e = .os .execFormat then shell eval (path :: args) m
    else (m.complain (path ++ ": not found") 127, .next)

/-- Settings of variables in front of a program, and the program. -/
def splitSettings : List String → List (String × String) × List String
  | [] => ([], [])
  | word :: rest =>
    let name := String.ofList (word.toList.takeWhile (· != '='))
    match word.toList.dropWhile (· != '=') with
    | _ :: value =>
      let r := splitSettings rest
      ((name, String.ofList value) :: r.1, r.2)
    | [] => ([], word :: rest)

/-- Runs a file or program by its name, with variables of its own if they are given. -/
def invokeFile (eval : Eval) (words : List String) (m : Machine) : Machine × Flow :=
  match words with
  | "env" :: rest =>
    let (settings, words) := splitSettings rest
    let inner := settings.foldl (fun m s => (m.set s.1 s.2).exportName s.1) m
    match words with
    | [] => ({ (Utility.printEnvironment [] inner) with vars := m.vars }, .next)
    | path :: args => m.separately (inner.startFile eval path args)
  | path :: args => m.separately (m.startFile eval path args)
  | [] => (m, .next)

def call (eval : Eval) (body : Command) (args : List String) (m : Machine) : Machine × Flow :=
  let (m', flow) := eval body { m with args }
  ({ m' with args := m.args }, if flow = .back then .next else flow)

/-- The commands whose failing redirections end a script. -/
def specialNames : List String :=
  [":", ".", "break", "continue", "eval", "exec", "exit", "export", "readonly", "return", "set",
    "shift", "trap", "unset"]

/-- Commands that the shell itself runs. -/
def builtin? (eval : Eval) (name : String) (args : List String) (m : Machine) :
    Option (Machine × Flow) :=
  match name with
  | ":" => some ({ m with status := 0 }, .next)
  | "exit" => some (m.finish args .exit)
  | "return" => some (m.finish args .back)
  | "break" => some ({ m with status := 0 }, if m.loops = 0 then .next else .leave (levels args))
  | "continue" =>
    some ({ m with status := 0 }, if m.loops = 0 then .next else .again (levels args))
  | "shift" =>
    let n := ((args.head?).bind String.toNat?).getD 1
    if n ≤ m.args.length then some ({ m with args := m.args.drop n, status := 0 }, .next)
    else some (m.complain "shift: can't shift that many" 2, .exit)
  | "set" => some (m.setOptions args, .next)
  | "export" => some (m.exportAll (Utility.operands args), .next)
  | "readonly" => some (m.exportAll (Utility.operands args), .next)
  | "local" => some (m.exportAll args, .next)
  | "unset" =>
    some ((Utility.operands args).foldl Machine.unset { m with status := 0 }, .next)
  | "trap" => some (m.setTraps args, .next)
  | "read" => some (m.readLine args, .next)
  | "cd" => some (m.changeDir args, .next)
  | "wait" => some ({ m with status := 0 }, .next)
  | "umask" => some ({ m with status := 0 }, .next)
  | "kill" => some (m.kill eval args)
  | "eval" => some (eval (.source (" ".intercalate args).toList) { m with status := 0 })
  | "." =>
    match m.tree.stat m.cwd (args.headD "") with
    | .ok (.file _ content) =>
      some (eval (.source (Text.loose content).toList) m)
    | _ => some (m.complain (".: cannot open " ++ args.headD "") 2, .exit)
  | "exec" =>
    match args with
    | [] => some ({ m with status := 0 }, .next)
    | path :: rest =>
      let (m', flow) := m.startFile eval path rest
      some ({ m' with traps := [] }, if flow = .next then .exit else flow)
  | _ => none

/-- Runs the command that the words name: one of the shell's, a function, or a program. -/
def invoke (eval : Eval) (words : List String) (m : Machine) : Machine × Flow :=
  match words with
  | [] => (m, .next)
  | "command" :: name :: args =>
    (m.builtin? eval name args).getD (m.invokeFile eval (name :: args))
  | name :: args =>
    match m.functions.lookup name with
    | some body => m.call eval body args
    | none =>
      match m.builtin? eval name args with
      | some r => r
      | none =>
        match Utility.all.lookup name with
        | some utility => utility args m
        | none => m.invokeFile eval words

/-- Ends a strict script at a failing command. -/
def check (r : Machine × Flow) : Machine × Flow :=
  if r.1.strict ∧ r.1.status ≠ 0 ∧ r.2 = .next then (r.1, .exit) else r

def simple (eval : Eval) (assigns : List (String × Word)) (words : List Word)
    (redirects : List Redirect) (m : Machine) : Machine × Flow :=
  let (m, texts) := expandWords eval { m with substituted := none } words
  let name := texts.headD ""
  let special := specialNames.contains name
  if m.aborted then (m, .exit) else
  match m.redirectAll eval redirects with
  | (m', false) => (m'.restoreStreams m redirects, if special then .exit else .next)
  | (inner, true) =>
    if texts = [] then
      let inner := inner.assign eval false assigns
      let after := inner.restoreStreams m redirects
      if after.aborted then (after, .exit)
      else check ({ after with status := after.substituted.getD 0 }, .next)
    else
      let inner := inner.assign eval (!special) assigns
      let (after, flow) := inner.invoke eval texts
      let after := if special || assigns = [] then after else { after with vars := m.vars }
      if texts = ["exec"] then (after, flow)
      else check (after.restoreStreams m redirects, flow)

/-- Runs a command where a failure ends nothing. -/
def attempt (eval : Eval) (c : Command) (m : Machine) : Machine × Flow :=
  let (m', flow) := eval c { m with strict := false }
  ({ m' with strict := m.strict }, flow)

def inLoop (m : Machine) (run : Machine → Machine × Flow) : Machine × Flow :=
  let (m', flow) := run { m with loops := m.loops + 1 }
  ({ m' with loops := m.loops }, flow)

def eachText (eval : Eval) (name : String) (body : Command) :
    List String → Machine → Machine × Flow
  | [], m => (m, .next)
  | s :: rest, m =>
    match (m.set name s).inLoop (eval body) with
    | (m, .next) => eachText eval name body rest m
    | (m, .again 1) => eachText eval name body rest m
    | (m, .again (k + 1)) => (m, .again k)
    | (m, .leave 1) => (m, .next)
    | (m, .leave (k + 1)) => (m, .leave k)
    | r => r

/-- The body of the first arm with a pattern that fits. -/
def choose (eval : Eval) (subject : List Char) :
    List (List Word × Command) → Machine → Machine × Flow
  | [], m => ({ m with status := 0 }, .next)
  | (patterns, body) :: rest, m =>
    let (m, found) := patterns.foldl (fun (m, found) w =>
      let (m, f) := expandField eval m w
      (m, found || f.fits subject)) (m, false)
    if found then eval body m else choose eval subject rest m

/-- The number of line ends between two places, blank lines in front not counted. -/
def lineEnds (ts rest : List Token) : Nat :=
  let ts := Parser.skipLines ts
  ((ts.take (ts.length - rest.length)).filter (· == .line)).length

/-- Runs the lines of a script one after another, each before the next one is read. -/
def lines (eval : Eval) : Nat → List Token → Machine → Machine × Flow
  | 0, _, m => (m, .next)
  | n + 1, ts, m =>
    if Parser.skipLines ts = [] then (m, .next)
    else
      let first := m.line + (ts.length - (Parser.skipLines ts).length)
      match Parser.line ts with
      | none => ({ m with line := first }.complain "Syntax error" 2, .exit)
      | some (c, rest) =>
        match eval c { m with line := first } with
        | (m, .next) => lines eval n rest { m with line := first + lineEnds ts rest }
        | r => r

/-- Runs a command, given a way to run the commands inside it. -/
def perform (eval : Eval) (c : Command) (m : Machine) : Machine × Flow :=
  match c with
  | .nothing => (m, .next)
  | .source text =>
    let ts := Lexer.tokens text
    m.lines eval (ts.length + 1) ts
  | .simple assigns words redirects => m.simple eval assigns words redirects
  | .pipe left right =>
    let writer := { m.setSink 1 .pipe with piped := [] }
    let (w, flow) := eval (.subshell left) writer
    match flow with
    | .next =>
      let reader := { m.absorb w with input := w.piped, piped := m.piped }
      let (r, flow) := eval (.subshell right) reader
      ({ m.absorb r with input := m.input }, flow)
    | _ => ({ m.absorb w with piped := m.piped }, flow)
  | .negate c =>
    match m.attempt eval c with
    | (m, .next) => (m.succeed (m.status ≠ 0), .next)
    | r => r
  | .both a b =>
    match m.attempt eval a with
    | (m, .next) => if m.status = 0 then eval b m else (m, .next)
    | r => r
  | .either a b =>
    match m.attempt eval a with
    | (m, .next) => if m.status = 0 then (m, .next) else eval b m
    | r => r
  | .sequence a b =>
    match eval a m with
    | (m, .next) => eval b m
    | r => r
  | .background c =>
    let (m', flow) := eval (.subshell c) { m with deadline := none }
    let m' := { m.absorb m' with deadline := m.deadline, now := m.now, status := 0 }
    match flow with
    | .raised n => (m', .raised n)
    | _ => (m', .next)
  | .branch test yes no =>
    match m.attempt eval test with
    | (m, .next) => if m.status = 0 then eval yes m else eval no { m with status := 0 }
    | r => r
  | .repeated whenTrue test body =>
    match m.attempt eval test with
    | (m, .next) =>
      if (m.status == 0) = whenTrue then
        match m.inLoop (eval body) with
        | (m, .next) => eval c m
        | (m, .again 1) => eval c m
        | (m, .again (k + 1)) => (m, .again k)
        | (m, .leave 1) => (m, .next)
        | (m, .leave (k + 1)) => (m, .leave k)
        | r => r
      else ({ m with status := 0 }, .next)
    | r => r
  | .each name words body =>
    let (m, texts) := expandWords eval m words
    m.eachText eval name body texts
  | .choose subject arms =>
    let (m, text) := expandText eval m subject
    m.choose eval text.toList arms
  | .subshell c =>
    let r := leave eval (eval c { m with traps := [] })
    match r.2 with
    | .ended e => (m.absorb r.1, .ended e)
    | .late => (m.absorb r.1, .late)
    | .raised n => (m.absorb r.1, .raised n)
    | _ => (m.absorb r.1, .next)
  | .redirected c redirects =>
    match m.redirectAll eval redirects with
    | (m', false) => (m'.restoreStreams m redirects, .next)
    | (inner, true) =>
      let (after, flow) := eval c inner
      (after.restoreStreams m redirects, flow)
  | .define name body =>
    ({ m with
      functions := (name, body) :: m.functions.filter (·.1 != name), status := 0 }, .next)

/-- The signal that the program which started the script has taken note of. -/
def signalled (m : Machine) : Option Nat :=
  if m.interrupted then some 2 else none

end Machine

def evalWithin : Nat → Eval
  | 0 => fun _ m => m.hang
  | n + 1 => fun c m => m.perform (evalWithin n) c

def depth : Nat := 2000

/-- Runs a program that the system has loaded, and says how it ended, if it did in time, and whether
it signalled the program that started it. -/
def start (name : String) (args : List String) (m : Machine) :
    Machine × Option Exit × Option Nat :=
  if m.deadline = some 0 then (m, none, none)
  else
    match m.runProgram (evalWithin depth) name args with
    | (m, .raised n) => (m, some (.signal n), some n)
    | (m, .ended e) => (m, some e, m.signalled)
    | (m, .late) => (m, none, m.signalled)
    | (m, _) => (m, some (.code m.status), m.signalled)

end ServerLauncher.Script
