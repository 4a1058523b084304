import ServerLauncher.Script.Lexer

/-!
Whole-number expressions, read from left to right by the rank of their operators.
-/

namespace ServerLauncher.Script.Sum

inductive Item where
  | number (n : Int)
  | sign (s : String)
  deriving DecidableEq, Repr

def signs : List String :=
  ["&&", "||", "==", "!=", "<=", ">=", "+", "-", "*", "/", "%", "<", ">", "(", ")", "!"]

def items (value : String → Int) : Nat → List Char → List Item
  | 0, _ => []
  | _, [] => []
  | n + 1, c :: rest =>
    let cs := c :: rest
    if c = ' ' ∨ c = '\t' ∨ c = '\n' ∨ c = '$' then items value n rest
    else if c.isDigit then
      let digits := cs.takeWhile Char.isDigit
      let total : Nat := digits.foldl (fun n c => 10 * n + (c.toNat - 48)) 0
      .number total :: items value n (cs.dropWhile Char.isDigit)
    else if Lexer.isNameStart c then
      .number (value (String.ofList (cs.takeWhile Lexer.isNameChar))) ::
        items value n (cs.dropWhile Lexer.isNameChar)
    else
      match signs.find? fun s => s.toList.isPrefixOf cs with
      | some s => .sign s :: items value n (cs.drop s.length)
      | none => []

/-- Operators of a higher rank bind more closely. -/
def rank? : String → Option Nat
  | "||" => some 1
  | "&&" => some 2
  | "==" => some 3
  | "!=" => some 3
  | "<" => some 4
  | ">" => some 4
  | "<=" => some 4
  | ">=" => some 4
  | "+" => some 5
  | "-" => some 5
  | "*" => some 6
  | "/" => some 6
  | "%" => some 6
  | _ => none

def truth (b : Bool) : Int := if b then 1 else 0

/-- Division goes toward zero, and there is none by zero. -/
def combine (s : String) (a b : Int) : Option Int :=
  match s with
  | "||" => some (truth (a ≠ 0 ∨ b ≠ 0))
  | "&&" => some (truth (a ≠ 0 ∧ b ≠ 0))
  | "==" => some (truth (a = b))
  | "!=" => some (truth (a ≠ b))
  | "<" => some (truth (a < b))
  | ">" => some (truth (b < a))
  | "<=" => some (truth (a ≤ b))
  | ">=" => some (truth (b ≤ a))
  | "+" => some (a + b)
  | "-" => some (a - b)
  | "*" => some (a * b)
  | "/" => if b = 0 then none else some (a.tdiv b)
  | "%" => if b = 0 then none else some (a.tmod b)
  | _ => none

mutual

def atom : Nat → List Item → Option (Int × List Item)
  | 0, _ => none
  | n + 1, ts =>
    match ts with
    | .number v :: rest => some (v, rest)
    | .sign "-" :: rest => (atom n rest).map fun r => (-r.1, r.2)
    | .sign "+" :: rest => atom n rest
    | .sign "!" :: rest => (atom n rest).map fun r => (truth (r.1 = 0), r.2)
    | .sign "(" :: rest => do
      let (v, rest) ← expression n 1 rest
      match rest with
      | .sign ")" :: rest => return (v, rest)
      | _ => none
    | _ => none

/-- An expression whose operators have at least the given rank. -/
def expression : Nat → Nat → List Item → Option (Int × List Item)
  | 0, _, _ => none
  | n + 1, least, ts => do
    let (v, rest) ← atom n ts
    continued n least v rest

def continued : Nat → Nat → Int → List Item → Option (Int × List Item)
  | 0, _, _, _ => none
  | n + 1, least, v, ts =>
    match ts with
    | .sign s :: rest =>
      match rank? s with
      | some r =>
        if least ≤ r then do
          let (w, rest) ← expression n (r + 1) rest
          let v ← combine s v w
          continued n least v rest
        else some (v, ts)
      | none => some (v, ts)
    | _ => some (v, ts)

end

/-- The value of a whole expression; an empty one is zero. -/
def eval? (value : String → Int) (cs : List Char) : Option Int :=
  match items value (cs.length + 1) cs with
  | [] => some 0
  | ts =>
    match expression (3 * ts.length + 3) 1 ts with
    | some (v, []) => some v
    | _ => none

end ServerLauncher.Script.Sum
