import ServerLauncher.Text.Ranges

/-!
Matching texts against patterns with `*`, `?` and brackets. A quoted character stands for itself.
-/

namespace ServerLauncher.Script

/-- Characters, each with a mark that says whether it was quoted. -/
abbrev Field := List (Char × Bool)

namespace Field

def ofChars (cs : List Char) (quoted : Bool) : Field :=
  cs.map fun c => (c, quoted)

def text (f : Field) : String :=
  String.ofList (f.map Prod.fst)

def hasPattern (f : Field) : Bool :=
  f.any fun p => !p.2 && (p.1 == '*' || p.1 == '?' || p.1 == '[')

/-- The characters in brackets, and what follows the closing bracket. -/
def bracket? : Field → Option (List Char × Field)
  | [] => none
  | (c, q) :: rest =>
    if c = ']' ∧ q = false then some ([], rest)
    else (bracket? rest).map fun r => (c :: r.1, r.2)

/-- A character is one of those in brackets; `a-z` means a range. -/
def isIn (c : Char) : List Char → Bool
  | a :: '-' :: b :: rest => (a ≤ c && c ≤ b) || isIn c rest
  | a :: rest => a == c || isIn c rest
  | [] => false

/-- The whole text has the form of the pattern. -/
def matchesWithin : Nat → Field → List Char → Bool
  | 0, _, _ => false
  | _, [], cs => cs.isEmpty
  | n + 1, (p, quoted) :: ps, cs =>
    if p = '*' ∧ quoted = false then
      matchesWithin n ps cs ||
        match cs with
        | _ :: rest => matchesWithin n ((p, quoted) :: ps) rest
        | [] => false
    else
      match cs with
      | [] => false
      | c :: rest =>
        if p = '?' ∧ quoted = false then matchesWithin n ps rest
        else if p = '[' ∧ quoted = false then
          match ps with
          | ('!', _) :: more =>
            match bracket? more with
            | some (set, more) => !isIn c set && matchesWithin n more rest
            | none => c == '[' && matchesWithin n ps rest
          | _ =>
            match bracket? ps with
            | some (set, more) => isIn c set && matchesWithin n more rest
            | none => c == '[' && matchesWithin n ps rest
        else p == c && matchesWithin n ps rest

/-- Each step takes a character of the pattern or of the text. -/
def fits (f : Field) (cs : List Char) : Bool :=
  matchesWithin (f.length + cs.length + 1) f cs

end Field

end ServerLauncher.Script
