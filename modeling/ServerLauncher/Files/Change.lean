import ServerLauncher.Files.Walk

/-!
Making directories and files, moving a file onto another name in one step, removing, and what
somebody else may do to a tree. Everything is made with the permissions left by a mask of 022.
-/

namespace ServerLauncher.Tree

/-- The place of a new entry: its directory takes entries and the name is short enough. -/
def place (t : Tree) (dir : Key) (name : String) : Except FileError Key :=
  if 255 < name.utf8ByteSize then .error (.os .nameTooLong)
  else
    match t.refusal? dir with
    | some e => .error (.os e)
    | none => .ok (name :: dir)

def makeDir (t : Tree) (cwd : Key) (path : String) : Except FileError Tree :=
  match t.locateParent cwd path with
  | .error e => .error e
  | .ok (dir, .name name _) =>
    if 255 < name.utf8ByteSize then .error (.os .nameTooLong)
    else if (t.get? (name :: dir)).isSome then .error (.os .present)
    else
      match t.place dir name with
      | .ok k => .ok (t.add k .dir)
      | .error e => .error e
  | .ok _ => .error (.os .present)

/-- A path that is a directory already counts as made. -/
def makeLastDir (t : Tree) (cwd : Key) (path : String) : Except FileError Tree :=
  match t.makeDir cwd path with
  | .ok t' => .ok t'
  | .error e => if t.pathIsDir cwd path then .ok t else .error e

/-- Makes a directory and the missing ones above it. The tree comes back in any case, since the
upper directories stay when a lower one cannot be made. -/
def makeDirsWithin (cwd : Key) : Nat → Tree → String → Tree × Option FileError
  | 0, t, _ => (t, some (.os .nameTooLong))
  | fuel + 1, t, path =>
    if path = "" then (t, none)
    else
      match t.makeDir cwd path with
      | .ok t' => (t', none)
      | .error e =>
        if e = .os .noEntry then
          match FilePath.parent? path with
          | none => (t, some e)
          | some up =>
            match makeDirsWithin cwd fuel t up with
            | (t', some e') => (t', some e')
            | (t', none) =>
              match t'.makeLastDir cwd path with
              | .ok t'' => (t'', none)
              | .error e' => (t', some e')
        else if t.pathIsDir cwd path then (t, none)
        else (t, some e)

/-- A path has fewer steps than characters, so the steps up to its start suffice. -/
def makeDirs (t : Tree) (cwd : Key) (path : String) : Tree × Option FileError :=
  makeDirsWithin cwd (path.length + 1) t path

/-- Where a file opened for writing lies, or would be made. -/
def writePlace (t : Tree) : Nat → Key → String → Except FileError Key
  | 0, _, _ => .error (.os .loop)
  | n + 1, cwd, path =>
    match t.locateParent cwd path with
    | .error e => .error e
    | .ok (dir, .name name slash) =>
      if slash then .error (.os .isDirectory)
      else if 255 < name.utf8ByteSize then .error (.os .nameTooLong)
      else
        match t.get? (name :: dir) with
        | some (.link target) => t.writePlace n dir target
        | _ => .ok (name :: dir)
    | .ok _ => .error (.os .isDirectory)

/-- Opens a file for writing at its end, and makes it if it is missing. -/
def openAppend (t : Tree) (cwd : Key) (path : String) : Except FileError (Tree × Key) :=
  match t.writePlace (linkLimit + 1) cwd path with
  | .error e => .error e
  | .ok k =>
    match t.get? k with
    | some .dir => .error (.os .isDirectory)
    | some (.file mode _) => if mode / 128 % 2 = 1 then .ok (t, k) else .error (.os .denied)
    | some (.link _) => .error (.os .loop)
    | none =>
      match t.refusal? k.tail with
      | some e => .error (.os e)
      | none => .ok (t.add k (.file 0o644 []), k)

/-- Makes a file that is not there yet. A failure names the file by its absolute path. -/
def makeTemp (t : Tree) (cwd : Key) (here dir name : String) (mode : Nat) :
    Except FileError (Tree × Key) :=
  let path := FilePath.join (FilePath.join here dir) name
  let refuse (e : FileError) : Except FileError (Tree × Key) :=
    .error (.placed e path)
  match t.locateParent cwd (FilePath.join dir name) with
  | .error e => refuse e
  | .ok (parent, _) =>
    match t.place parent name with
    | .error e => refuse e
    | .ok k =>
      if (t.get? k).isSome then refuse (.os .present)
      else .ok (t.add k (.file mode []), k)

/-- Moves a file. Whatever file or link is at the target gives way to it; a directory does not, nor
does a name written with a slash at its end. -/
def moveFile (t : Tree) (cwd : Key) (source target : String) : Except FileError Tree :=
  match t.locateParent cwd source, t.locateParent cwd target with
  | .error e, _ => .error e
  | _, .error e => .error e
  | .ok (sourceDir, .name sourceName _), .ok (targetDir, .name targetName slash) =>
    let k := sourceName :: sourceDir
    let k' := targetName :: targetDir
    match t.get? k with
    | none => .error (.os .noEntry)
    | some e =>
      if 255 < targetName.utf8ByteSize then .error (.os .nameTooLong)
      else if slash then .error (.os .notDirectory)
      else if t.isDir k' then .error (.os .isDirectory)
      else
        match (t.refusal? sourceDir).or (t.refusal? targetDir) with
        | some e => .error (.os e)
        | none => if k = k' then .ok t else .ok (((t.erase k').erase k).add k' e)
  | _, _ => .error (.os .busy)

/-- Removes the file or link at a path; a failure changes nothing and is not reported. -/
def removeFile (t : Tree) (cwd : Key) (path : String) : Tree :=
  match t.locateParent cwd path with
  | .ok (dir, .name name false) => if t.isDir (name :: dir) then t else t.erase (name :: dir)
  | _ => t

end ServerLauncher.Tree

namespace ServerLauncher

inductive Change where
  | write (path : String) (mode : Nat) (content : Bytes)
  | makeDir (path : String)
  | link (path target : String)
  | remove (path : String)
  deriving DecidableEq, Repr

namespace Tree

def makeParents (t : Tree) (cwd : Key) (path : String) : Tree :=
  match FilePath.parent? path with
  | some dir => (t.makeDirs cwd dir).1
  | none => t

/-- Makes a file, or replaces mode and content of the file that is there. -/
def writeFile (t : Tree) (cwd : Key) (path : String) (mode : Nat) (content : Bytes) : Tree :=
  match t.writePlace (linkLimit + 1) cwd path with
  | .ok k => if t.isDir k then t else t.put k (.file mode content)
  | .error _ => t

def makeLink (t : Tree) (cwd : Key) (path target : String) : Tree :=
  match t.locateParent cwd path with
  | .ok (dir, .name name false) =>
    if (t.get? (name :: dir)).isSome then t else t.add (name :: dir) (.link target)
  | _ => t

/-- Removes what is at a path, a directory with all that lies in it. A link is not followed. -/
def removeAll (t : Tree) (cwd : Key) (path : String) : Tree :=
  match t.locateParent cwd path with
  | .ok (dir, .name name _) => t.eraseBelow (name :: dir)
  | _ => t

def apply (t : Tree) (cwd : Key) : Change → Tree
  | .write path mode content => (t.makeParents cwd path).writeFile cwd path mode content
  | .makeDir path => (t.makeDirs cwd path).1
  | .link path target => (t.makeParents cwd path).makeLink cwd path target
  | .remove path => t.removeAll cwd path

def applyAll (t : Tree) (cwd : Key) (changes : List Change) : Tree :=
  changes.foldl (fun t c => t.apply cwd c) t

end Tree

end ServerLauncher
