import ServerLauncher.Config
import ServerLauncher.Files.Change

/-!
Files in the making. A staged file lies in the directory of its target under a name that nothing
else has, grows there, and either takes the place of the target in one step or is removed.
-/

namespace ServerLauncher

/-- A directory that paths are taken from, and how it is written. -/
structure Workplace where
  key : Key
  text : String
  deriving DecidableEq, Repr

namespace Staged

/-- The names of staged files are numbered. -/
def numbered (n : Nat) : String :=
  ".tmp" ++ String.ofList (Duration.digits 10 n)

/-- The names that an entry has or leads to. -/
def namesIn : Key × Entry → List String
  | (k, .link target) => k ++ Tree.steps target
  | (k, _) => k

/-- A name that no entry of the tree has and no link leads to: among more names than those one is
free. -/
def freshName (t : Tree) : String :=
  let used := t.entries.flatMap namesIn
  (((List.range (used.length + 1)).map numbered).find? (!used.contains ·)).getD (numbered 0)

/-- Owner, group and others may run the file, and the owner may write it. -/
def mode : Nat := 0o755

end Staged

/-- A staged file, by its path and by where it lies. -/
structure Staged where
  path : String
  key : Key
  deriving DecidableEq, Repr

namespace Staged

/-- Makes an empty file under a name of its own. -/
def create (t : Tree) (w : Workplace) (dir : String) : Except FileError (Tree × Staged) :=
  let name := freshName t
  match t.makeTemp w.key w.text dir name mode with
  | .ok (t', k) => .ok (t', ⟨FilePath.join dir name, k⟩)
  | .error e => .error e

/-- Adds bytes to the file, if it is still there. -/
def write (s : Staged) (t : Tree) (bytes : Bytes) : Tree :=
  t.append s.key bytes

def commit (s : Staged) (t : Tree) (w : Workplace) (target : String) : Except FileError Tree :=
  t.moveFile w.key s.path target

def discard (s : Staged) (t : Tree) (w : Workplace) : Tree :=
  t.removeFile w.key s.path

end Staged

end ServerLauncher
