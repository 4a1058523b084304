import ServerLauncher.Error
import ServerLauncher.Files.Change
import ServerLauncher.Platform
import ServerLauncher.Tag

/-!
Where a release comes from and where it goes: the address of the build for a host, and the path of
the installed server.
-/

namespace ServerLauncher.Release

def tag (text : String) : Except AcquireError Tag :=
  (Tag.ofText text).mapError fun fault => .invalidTag text fault.text

def build (os : HostOs) : Except AcquireError Build :=
  match os.build? with
  | some b => .ok b
  | none => .error (.unsupportedPlatform os.name)

def serverDir (root : String) : String :=
  FilePath.join root "server"

def fileName (artifact : String) (tag : Tag) (extension : String) : String :=
  artifact ++ "-" ++ tag.text ++ extension

/-- The path of an installed server. Its directory is made; the tree comes back in any case. -/
def destination (t : Tree) (cwd : Key) (root artifact : String) (tag : Tag) (extension : String) :
    Tree × Except AcquireError String :=
  let dir := serverDir root
  match t.makeDirs cwd dir with
  | (t, some e) => (t, .error (.file "create directory" dir e))
  | (t, none) => (t, .ok (FilePath.join dir (fileName artifact tag extension)))

section Destination

variable {t : Tree} {cwd : Key} {root artifact extension : String} {tag : Tag}

theorem serverDir_ne_empty (root : String) : serverDir root ≠ "" := by
  intro h
  have habs : FilePath.isAbsolute "server" = false := by decide
  rw [serverDir, FilePath.join, habs, if_neg Bool.false_ne_true] at h
  split at h
  · simpa using congrArg String.toList h
  · simpa using congrArg String.toList h

theorem destination_fst : (destination t cwd root artifact tag extension).1 =
    (t.makeDirs cwd (serverDir root)).1 := by
  rw [destination]
  generalize t.makeDirs cwd (serverDir root) = r
  obtain ⟨u, _ | cause⟩ := r <;> rfl

theorem destination_eq_ok_iff {path : String} :
    (destination t cwd root artifact tag extension).2 = .ok path ↔
      (t.makeDirs cwd (serverDir root)).2 = none ∧
        path = FilePath.join (serverDir root) (fileName artifact tag extension) := by
  rw [destination]
  generalize t.makeDirs cwd (serverDir root) = r
  obtain ⟨u, _ | cause⟩ := r
  · simp only [Except.ok.injEq, true_and, eq_comm]
  · simp

theorem destination_eq_error_iff {e : AcquireError} :
    (destination t cwd root artifact tag extension).2 = .error e ↔
      ∃ cause, (t.makeDirs cwd (serverDir root)).2 = some cause ∧
        e = .file "create directory" (serverDir root) cause := by
  rw [destination]
  generalize t.makeDirs cwd (serverDir root) = r
  obtain ⟨u, _ | cause⟩ := r
  · simp
  · simp only [Except.error.injEq, Option.some.injEq, exists_eq_left', eq_comm]

end Destination

/-- The text without slashes at its end. -/
def trimSlashes (base : String) : String :=
  String.ofList (base.toList.reverse.dropWhile (· == '/')).reverse

def assetName (artifact : String) (build : Build) : String :=
  artifact ++ "-" ++ build.variant.name ++ build.extension

def url (base artifact : String) (tag : Tag) (build : Build) : String :=
  trimSlashes base ++ "/" ++ tag.text ++ "/" ++ assetName artifact build

end ServerLauncher.Release
