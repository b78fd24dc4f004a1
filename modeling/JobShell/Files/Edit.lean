import JobShell.Files.Store

/-!
Making, moving and removing files under their names. A change takes the permission to write the
directory that holds the name.
-/

namespace JobShell.FileSystem

/-- A path without the slashes at its end, as far as anything is left. -/
def trimSlashes (path : String) : String :=
  let trimmed := (path.toList.reverse.dropWhile (· == '/')).reverse
  if trimmed = [] then path else String.ofList trimmed

def freePlace (fs : FileSystem) (cwd : NodeId) (path : String) :
    Except FileError (NodeId × String) := do
  match ← fs.locate cwd path false with
  | .entry dir name none =>
    if !fs.isReachable dir then .error .notFound
    else if !fs.grants dir .write then .error .denied
    else .ok (dir, name)
  | _ => .error .alreadyExists

def makeDirectory (fs : FileSystem) (cwd : NodeId) (path : String) (mode : Nat) :
    Except FileError FileSystem := do
  let (dir, name) ← fs.freePlace cwd (trimSlashes path)
  let (id, fs) := fs.add (.directory { parent := dir, mode })
  .ok (fs.enter dir name id)

def makeDirectories (fs : FileSystem) (cwd : NodeId) (path : String) : FileSystem :=
  let names := pathNames path
  let start := if isAbsolute path then "/" else ""
  let paths := (List.range names.length).map fun n =>
    start ++ String.intercalate "/" (names.take (n + 1))
  paths.foldl (fun fs path => (fs.makeDirectory cwd path directoryMode).toOption.getD fs) fs

def makeLink (fs : FileSystem) (cwd : NodeId) (path target : String) :
    Except FileError FileSystem := do
  let (dir, name) ← fs.freePlace cwd path
  let (id, fs) := fs.add (.link target)
  .ok (fs.enter dir name id)

/-- Makes a file with the given mode and content, or gives them to the file that is there. -/
def putFile (fs : FileSystem) (cwd : NodeId) (path : String) (mode : Nat) (content : Bytes) :
    Except FileError FileSystem := do
  match ← fs.locate cwd path true with
  | .directory _ => .error .isDirectory
  | .entry dir name none =>
    let (id, fs) ← fs.create dir name mode
    .ok (fs.set id (.file mode content))
  | .entry _ _ (some id) =>
    match fs.get? id with
    | some (.file _ _) => .ok (fs.set id (.file mode content))
    | _ => .error .isDirectory

def setMode (fs : FileSystem) (id : NodeId) (mode : Nat) : FileSystem :=
  match fs.get? id with
  | some (.file _ content) => fs.set id (.file mode content)
  | some (.directory d) => fs.set id (.directory { d with mode })
  | _ => fs

def unlink (fs : FileSystem) (cwd : NodeId) (path : String) : Except FileError FileSystem := do
  match ← fs.locate cwd path false with
  | .directory _ => .error .isDirectory
  | .entry _ _ none => .error .notFound
  | .entry dir name (some id) =>
    if !fs.grants dir .write then .error .denied
    else if (fs.directory? id).isSome then .error .isDirectory
    else .ok (fs.leave dir name)

def removeDirectory (fs : FileSystem) (cwd : NodeId) (path : String) :
    Except FileError FileSystem := do
  let path := trimSlashes path
  match ← fs.locate cwd path false with
  | .directory id =>
    if id = root then .error .busy
    else if (pathNames path).getLast? = some "." then .error .invalid
    else .error .notEmpty
  | .entry _ _ none => .error .notFound
  | .entry dir name (some id) =>
    if !fs.grants dir .write then .error .denied
    else
      match fs.directory? id with
      | none => .error .notDirectory
      | some d => if d.entries.isEmpty then .ok (fs.leave dir name) else .error .notEmpty

def isBelow (fs : FileSystem) (fuel : Nat) (ancestor id : NodeId) : Bool :=
  id == ancestor ||
    match fuel with
    | 0 => false
    | fuel + 1 =>
      id != root &&
        match fs.directory? id with
        | some d => isBelow fs fuel ancestor d.parent
        | none => false

def setParent (fs : FileSystem) (id parent : NodeId) : FileSystem :=
  match fs.directory? id with
  | some d => fs.set id (.directory { d with parent })
  | none => fs

/-- Moves what is at one path to another, in place of a file or an empty directory there. Only a
directory may be named with a slash at the end. -/
def rename (fs : FileSystem) (cwd : NodeId) (source target : String) :
    Except FileError FileSystem := do
  match ← fs.locate cwd (trimSlashes source) false, ← fs.locate cwd (trimSlashes target) false with
  | .entry dir name (some id), .entry newDir newName old =>
    let isDirectory := (fs.directory? id).isSome
    let moved := ((fs.leave dir name).enter newDir newName id).setParent id newDir
    if !isDirectory && (endsWithSlash source || endsWithSlash target) then .error .notDirectory
    else if !fs.isReachable newDir then .error .notFound
    else if fs.isBelow fs.nodes.size id newDir then .error .invalid
    else if old = some id then .ok fs
    else if !fs.grants dir .write || !fs.grants newDir .write then .error .denied
    else if isDirectory && dir != newDir && !fs.grants id .write then .error .denied
    else
      match old with
      | none => .ok moved
      | some old =>
        match isDirectory, fs.directory? old with
        | true, some d => if d.entries.isEmpty then .ok moved else .error .notEmpty
        | true, none => .error .notDirectory
        | false, some _ => .error .isDirectory
        | false, none => .ok moved
  | .entry _ _ none, _ => .error .notFound
  | _, _ => .error .busy

/-- All names below a directory with their nodes, each as a path from it; down to a depth of
`fuel`. -/
def tree (fs : FileSystem) (fuel : Nat) (id : NodeId) (path : String) : List (String × Node) :=
  match fuel with
  | 0 => []
  | fuel + 1 =>
    match fs.directory? id with
    | none => []
    | some d =>
      d.entries.flatMap fun (name, child) =>
        let path := joinPath path name
        ((fs.get? child).map fun node => (path, node)).toList ++ tree fs fuel child path

def listing (fs : FileSystem) (id : NodeId) : List (String × Node) :=
  fs.tree fs.nodes.size id ""

end JobShell.FileSystem
