import ServerLauncher.Files.Error
import ServerLauncher.Text.Basic

/-!
A file tree: directories, files with their permission bits and content, and links, each at the list
of names that leads to it.
-/

namespace ServerLauncher

/-- The names from an entry up to the root, the entry's own name first. The root has no name. -/
abbrev Key := List String

inductive Entry where
  | dir
  | file (mode : Nat) (content : Bytes)
  | link (target : String)
  deriving DecidableEq, Repr

namespace Entry

def isDir : Entry → Bool
  | dir => true
  | _ => false

def isFile : Entry → Bool
  | file .. => true
  | _ => false

end Entry

/-- The entries in the order of their creation. A sealed directory takes no new entries; each comes
with the error that it answers. -/
structure Tree where
  entries : List (Key × Entry)
  sealed : List (Key × OsError) := []
  deriving DecidableEq, Repr

namespace Tree

def get? (t : Tree) (k : Key) : Option Entry :=
  t.entries.lookup k

def isDir (t : Tree) (k : Key) : Bool :=
  (t.get? k).any Entry.isDir

/-- Adds an entry behind all others. -/
def add (t : Tree) (k : Key) (e : Entry) : Tree :=
  { t with entries := t.entries ++ [(k, e)] }

def erase (t : Tree) (k : Key) : Tree :=
  { t with entries := t.entries.filter (·.1 != k) }

/-- Takes an entry away with all that lies below it. -/
def eraseBelow (t : Tree) (k : Key) : Tree :=
  { t with entries := t.entries.filter fun p => !k.isSuffixOf p.1 }

def modify (t : Tree) (k : Key) (f : Entry → Entry) : Tree :=
  { t with entries := t.entries.map fun p => if p.1 = k then (p.1, f p.2) else p }

/-- Puts an entry in the place of whatever is there. -/
def put (t : Tree) (k : Key) (e : Entry) : Tree :=
  if (t.get? k).isSome then t.modify k fun _ => e else t.add k e

def append (t : Tree) (k : Key) (bytes : Bytes) : Tree :=
  t.modify k fun
    | .file mode content => .file mode (content ++ bytes)
    | e => e

theorem lookup_cons_ite (k k' : Key) (e : Entry) (rest : List (Key × Entry)) :
    ((k, e) :: rest).lookup k' = if k' = k then some e else rest.lookup k' := by
  by_cases h : k' = k
  · simp [h]
  · have hne : (k' == k) = false := by simpa using h
    simp [List.lookup_cons, h, hne]

theorem lookup_filter (es : List (Key × Entry)) (keep : Key → Bool) (k : Key) :
    (es.filter fun p => keep p.1).lookup k = if keep k then es.lookup k else none := by
  induction es with
  | nil => simp
  | cons p rest ih =>
    obtain ⟨k', e⟩ := p
    by_cases hk : k = k'
    · subst hk
      cases h : keep k <;> simp [h, ih]
    · cases h : keep k' <;> simp [lookup_cons_ite, h, hk, ih]

theorem get?_add (t : Tree) (k k' : Key) (e : Entry) :
    (t.add k e).get? k' = (t.get? k').or (if k' = k then some e else none) := by
  simp [get?, add, List.lookup_append, lookup_cons_ite]

theorem get?_erase (t : Tree) (k k' : Key) :
    (t.erase k).get? k' = if k' = k then none else t.get? k' := by
  have h := lookup_filter t.entries (· != k) k'
  by_cases hk : k' = k <;> simpa [get?, erase, hk] using h

theorem get?_eraseBelow (t : Tree) (k k' : Key) :
    (t.eraseBelow k).get? k' = if k.isSuffixOf k' then none else t.get? k' := by
  have h := lookup_filter t.entries (fun p => !k.isSuffixOf p) k'
  cases hk : k.isSuffixOf k' <;> simpa [get?, eraseBelow, hk] using h

theorem get?_modify (t : Tree) (k k' : Key) (f : Entry → Entry) :
    (t.modify k f).get? k' = if k' = k then (t.get? k').map f else t.get? k' := by
  unfold get? modify
  induction t.entries with
  | nil => simp
  | cons p rest ih =>
    obtain ⟨q, e⟩ := p
    by_cases hq : q = k
    · by_cases hk : k' = k <;> simp_all [lookup_cons_ite]
    · by_cases hk : k' = q
      · subst hk
        simp [hq]
      · simp [lookup_cons_ite, hq, hk, ih]

theorem get?_put (t : Tree) (k k' : Key) (e : Entry) :
    (t.put k e).get? k' = if k' = k then some e else t.get? k' := by
  unfold put
  split
  · rename_i h
    obtain ⟨old, hold⟩ := Option.isSome_iff_exists.1 h
    rw [get?_modify]
    by_cases hk : k' = k
    · simp [hk, hold]
    · simp [hk]
  · rename_i h
    rw [get?_add]
    by_cases hk : k' = k
    · simp [hk, Option.not_isSome_iff_eq_none.1 h]
    · simp [hk]

/-- The error of making something in a directory. -/
def refusal? (t : Tree) (dir : Key) : Option OsError :=
  t.sealed.lookup dir

/-- Every entry but the root lies in a directory, and no name stands twice. -/
structure WellFormed (t : Tree) : Prop where
  root : t.get? [] = some .dir
  parents : ∀ name dir, (t.get? (name :: dir)).isSome → t.get? dir = some .dir
  once : (t.entries.map Prod.fst).Nodup

end Tree

structure ListedEntry where
  path : String
  entry : Entry
  deriving DecidableEq, Repr

namespace Tree

/-- Byte by byte, a text before all that it starts. -/
def bytesBefore : List UInt8 → List UInt8 → Bool
  | [], _ => true
  | _ :: _, [] => false
  | a :: as, b :: bs => a < b || (a == b && bytesBefore as bs)

/-- The path from a directory down to an entry. -/
def relativePath (dir k : Key) : String :=
  String.intercalate "/" (k.take (k.length - dir.length)).reverse

/-- Permission of the owner to read. -/
def isReadable : Entry → Bool
  | .file mode _ => mode / 256 % 2 == 1
  | _ => true

/-- All entries below a directory; none if one of them is a file that may not be read. -/
def list? (t : Tree) (dir : Key) : Option (List ListedEntry) :=
  let below := t.entries.filter fun p => dir.isSuffixOf p.1 && p.1 != dir
  if below.all (fun p => isReadable p.2) then
    let named := below.map fun p => (⟨relativePath dir p.1, p.2⟩ : ListedEntry)
    some (named.mergeSort fun a b => bytesBefore a.path.toUTF8.toList b.path.toUTF8.toList)
  else none

end Tree

end ServerLauncher
