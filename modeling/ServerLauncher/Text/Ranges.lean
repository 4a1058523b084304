/-!
Sets of code points written as a list of ranges in hexadecimal, such as `20 30-39`.
-/

namespace ServerLauncher.Text

/-- The pieces between the occurrences of a separator, at least one. -/
def splitOn (separator : Char) : List Char → List (List Char)
  | [] => [[]]
  | c :: rest =>
    if c = separator then [] :: splitOn separator rest
    else
      match splitOn separator rest with
      | [] => [[c]]
      | piece :: pieces => (c :: piece) :: pieces

theorem splitOn_ne_nil (separator : Char) (cs : List Char) : splitOn separator cs ≠ [] := by
  cases cs with
  | nil => simp [splitOn]
  | cons c rest =>
    unfold splitOn
    split
    · simp
    · split <;> simp

theorem intercalate_splitOn (separator : Char) (cs : List Char) :
    [separator].intercalate (splitOn separator cs) = cs := by
  induction cs with
  | nil => simp [splitOn, List.intercalate]
  | cons c rest ih =>
    obtain ⟨piece, pieces, h⟩ := List.exists_cons_of_ne_nil (splitOn_ne_nil separator rest)
    rw [h] at ih
    unfold splitOn
    split
    · rename_i hc
      simp [h, hc, List.intercalate_cons_cons, ih]
    · rw [h]
      cases pieces <;> simp_all [List.intercalate]

/-- No piece holds a separator. -/
theorem not_mem_of_mem_splitOn {separator : Char} {cs piece : List Char}
    (h : piece ∈ splitOn separator cs) : separator ∉ piece := by
  induction cs generalizing piece with
  | nil => simp_all [splitOn]
  | cons c rest ih =>
    obtain ⟨first, pieces, hs⟩ := List.exists_cons_of_ne_nil (splitOn_ne_nil separator rest)
    unfold splitOn at h
    split at h
    · rcases List.mem_cons.1 h with rfl | h
      · simp
      · exact ih h
    · rename_i hc
      rw [hs] at h
      rcases List.mem_cons.1 h with rfl | h
      · have : separator ∉ first := ih (by simp [hs])
        simp [Ne.symm hc, this]
      · exact ih (by simp [hs, h])

def hexDigit (c : Char) : Nat :=
  if '0' ≤ c ∧ c ≤ '9' then c.toNat - 48
  else if 'a' ≤ c ∧ c ≤ 'f' then c.toNat - 87
  else if 'A' ≤ c ∧ c ≤ 'F' then c.toNat - 55
  else 0

def hexValue (cs : List Char) : Nat :=
  cs.foldl (fun n c => 16 * n + hexDigit c) 0

/-- Ranges of code points, both ends included. -/
structure Ranges where
  bounds : List (Nat × Nat)

namespace Ranges

def contains (r : Ranges) (n : Nat) : Bool :=
  r.bounds.any fun (low, high) => low ≤ n && n ≤ high

def ofText (text : String) : Ranges where
  bounds := (splitOn ' ' text.toList).map fun word =>
    match splitOn '-' word with
    | [low, high] => (hexValue low, hexValue high)
    | _ => (hexValue word, hexValue word)

end Ranges

end ServerLauncher.Text
