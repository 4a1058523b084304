import ServerLauncher.Host

/-!
The launcher as a program. It reads the directory it is started in and the data of the user into a
file tree, carries out its arguments there, and then makes on disk what has come up in the tree.
-/

namespace ServerLauncher.Main

def variableNames : List String :=
  ["PATH", "HOME", "XDG_DATA_HOME", "RUST_LOG", "PROSEMD_DATA_DIR", "PROSEMD_TAG",
    "PROSEMD_RELEASE_URL"]

def readEnvironment : IO Environment :=
  variableNames.filterMapM fun name => do
    return (← IO.getEnv name).map fun value => (name, Bytes.ofText value)

def keyOf (path : String) : Key :=
  ((Tree.steps path).filter (· ≠ "")).reverse

/-- The entry on disk that a key leads to. -/
def onDisk (k : Key) : IO.FS.DirEntry :=
  ⟨"/", "/".intercalate k.reverse⟩

/-- The depth to which directories are read. -/
def readingDepth : Nat := 4

/-- Reads what lies in a directory. Every file that is found may be run. -/
def readEntries : Nat → Key → Tree → IO Tree
  | 0, _, t => return t
  | n + 1, dir, t => do
    let mut t := t
    for e in ← (onDisk dir).path.readDir do
      let k := e.fileName :: dir
      if ← e.path.isDir then t ← readEntries n k (t.put k .dir)
      else t := t.put k (.file 0o755 (← IO.FS.readBinFile e.path).toList)
    return t

/-- Reads a directory, if it is one, and makes the directories above it known. -/
def readFrom (dir : Key) (t : Tree) : IO Tree := do
  if ← (onDisk dir).path.isDir then
    let above := (List.range (dir.length + 1)).map fun n => dir.drop n
    readEntries readingDepth dir (above.foldl (fun t k => t.put k .dir) t)
  else return t

/-- Makes the entries on disk that the new tree has and the old one has not. -/
def writeBack (old new : Tree) : IO Unit := do
  for (k, e) in new.entries do
    if old.get? k != some e then
      match e with
      | .dir => IO.FS.createDirAll (onDisk k).path
      | .file _ content => IO.FS.writeBinFile (onDisk k).path ⟨content.toArray⟩
      | .link _ => pure ()

end ServerLauncher.Main

open ServerLauncher in
def main (args : List String) : IO UInt32 := do
  let cwd := Main.keyOf (← IO.currentDir).toString
  let env ← Main.readEnvironment
  let scene := Host.scene ⟨cwd, (← IO.currentDir).toString⟩ env
  let data := Main.keyOf (((scene.dataDir env).map Text.loose).getD "/")
  let tree ← Main.readFrom (["server", "prosemd"] ++ data) (← Main.readFrom cwd Host.tree)
  let stamp := toString (← IO.monoMsNow) ++ "ms"
  let (after, showing) := scene.launch (Host.outside stamp) tree args
  Main.writeBack tree after
  (← IO.getStdout).write ⟨showing.output.toArray⟩
  (← IO.getStderr).write ⟨showing.errors.toArray⟩
  return (showing.code.getD 1).toUInt32
