import JobShell.Files.Lookup

/-!
Open files. What is opened keeps a place of its own in the file; descriptors name open files, and
two that name the same share its place.
-/

namespace JobShell

/-- An open file: a node, how far it has been read or written, and what may be done with it. -/
structure OpenFile where
  node : NodeId
  offset : Nat := 0
  reads : Bool := false
  writes : Bool := false
  /-- Whether each write goes to the end of the file. -/
  appends : Bool := false
  deriving DecidableEq, Repr

abbrev Handle := Nat

structure Store where
  files : FileSystem := {}
  opened : Array OpenFile := #[]
  deriving DecidableEq, Repr, Inhabited

structure Streams where
  input : Handle
  output : Handle
  errors : Handle
  deriving DecidableEq, Repr, Inhabited

def Streams.handle? (streams : Streams) : Nat → Option Handle
  | 0 => some streams.input
  | 1 => some streams.output
  | 2 => some streams.errors
  | _ => none

def Streams.held (streams : Streams) : List Handle :=
  [streams.input, streams.output, streams.errors]

inductive WriteStart where
  | empty
  /-- It stays, and is added to. -/
  | atEnd
  /-- It stays, and can be read and overwritten. -/
  | kept
  deriving DecidableEq, Repr

def redirectedMode : Nat := 0o644

namespace FileSystem

/-- Creates an empty file under a name, if its directory still exists and may be changed. -/
def create (fs : FileSystem) (dir : NodeId) (name : String) (mode : Nat) :
    Except FileError (NodeId × FileSystem) :=
  if !fs.isReachable dir then .error .notFound
  else if !fs.grants dir .write then .error .denied
  else
    let (id, fs) := fs.add (.file mode [])
    .ok (id, fs.enter dir name id)

def content (fs : FileSystem) (id : NodeId) : Bytes :=
  match fs.get? id with
  | some (.file _ content) | some (.pipe _ content) => content
  | _ => []

def setContent (fs : FileSystem) (id : NodeId) (content : Bytes) : FileSystem :=
  match fs.get? id with
  | some (.file mode _) => fs.set id (.file mode content)
  | some (.pipe mode _) => fs.set id (.pipe mode content)
  | _ => fs

end FileSystem

namespace Store

def push (store : Store) (file : OpenFile) : Handle × Store :=
  (store.opened.size, { store with opened := store.opened.push file })

/-- The node itself, or the one behind a descriptor of a process whose open files are `own`. -/
def behind (store : Store) (own : Nat → Option Handle) (id : NodeId) : Except FileError NodeId :=
  match store.files.get? id with
  | some (.descriptor number) =>
    match (own number).bind (store.opened[·]?) with
    | some file => .ok file.node
    | none => .error .notFound
  | _ => .ok id

def find (store : Store) (own : Nat → Option Handle) (cwd : NodeId) (path : String) :
    Except FileError NodeId := do
  store.behind own (← store.files.find cwd path)

/-- Whether one of the open files `held` is the node, open in some way. -/
def hasOpen (store : Store) (held : List Handle) (node : NodeId) (way : OpenFile → Bool) : Bool :=
  held.any fun handle => (store.opened[handle]?).any fun file => file.node == node && way file

/-- Whether opening a file had to wait: it is a pipe with a name, and nobody among `held` has the
other end of it. -/
def lacksPeer (store : Store) (held : List Handle) (handle : Handle) : Bool :=
  (store.opened[handle]?).any fun file =>
    match store.files.get? file.node with
    | some (.pipe (some _) _) =>
      !store.hasOpen held file.node (if file.reads then OpenFile.writes else OpenFile.reads)
    | _ => false

/-- Opens a node that exists, if it grants what is asked for. What comes after waiting for the other
end of a pipe is done at once; whether there is somebody to wait for is for `lacksPeer` to say. -/
def openNode (store : Store) (file : OpenFile) : Except FileError (Handle × Store) :=
  match store.files.get? file.node with
  | none => .error .notFound
  | some (.device .terminal) => .error .noDevice
  | some node =>
    if (file.reads && !node.grants .read) || (file.writes && !node.grants .write) then
      .error .denied
    else .ok (store.push file)

/-- Opens a file for reading, from its start. A directory can be opened too, though not read. -/
def openForReading (store : Store) (own : Nat → Option Handle) (cwd : NodeId) (path : String) :
    Except FileError (Handle × Store) := do
  store.openNode { node := ← store.find own cwd path, reads := true }

/-- Opens a file for writing. One that exists keeps its mode; one that does not is created. -/
def openForWriting (store : Store) (own : Nat → Option Handle) (cwd : NodeId) (path : String)
    (mode : Nat) (start : WriteStart) : Except FileError (Handle × Store) := do
  let file (node : NodeId) : OpenFile :=
    { node, reads := start == .kept, writes := true, appends := start == .atEnd }
  match ← store.files.locate cwd path true with
  | .directory _ => .error .isDirectory
  | .entry dir name none =>
    let (node, files) ← store.files.create dir name mode
    .ok ({ store with files }.push (file node))
  | .entry _ _ (some node) =>
    let node ← store.behind own node
    match store.files.get? node with
    | some (.directory _) => .error .isDirectory
    | _ =>
      let (handle, opened) ← store.openNode (file node)
      match start, store.files.get? node with
      | .empty, some (.file _ _) =>
        .ok (handle, { opened with files := opened.files.setContent node [] })
      | _, _ => .ok (handle, opened)

/-- Makes a pipe: its open end for reading and the one for writing. -/
def openPipe (store : Store) : (Handle × Handle) × Store :=
  let (node, files) := store.files.add (.pipe none [])
  let (source, store) := { store with files }.push { node, reads := true }
  let (sink, store) := store.push { node, writes := true }
  ((source, sink), store)

/-- What the next bytes of an open file are, `count` of them if there are as many. -/
def peek (store : Store) (file : OpenFile) (count : Nat) : Except FileError Bytes :=
  match store.files.get? file.node with
  | some (.directory _) => .error .isDirectory
  | some (.file _ content) => .ok ((content.drop file.offset).take count)
  | some (.pipe _ content) => .ok (content.take count)
  | some (.device .zero) | some (.device .full) => .ok (List.replicate count 0)
  | _ => .ok []

/-- Reads at most `count` bytes and goes on in the file; what is read from a pipe leaves it. -/
def read (store : Store) (handle : Handle) (count : Nat) : Except FileError (Bytes × Store) :=
  match store.opened[handle]? with
  | none => .error .badDescriptor
  | some file =>
    if !file.reads then .error .badDescriptor
    else
      match store.peek file count with
      | .error error => .error error
      | .ok bytes =>
        match store.files.get? file.node with
        | some (.pipe _ content) =>
          let files := store.files.setContent file.node (content.drop bytes.length)
          .ok (bytes, { store with files })
        | _ =>
          let file := { file with offset := file.offset + bytes.length }
          .ok (bytes, { store with opened := store.opened.setIfInBounds handle file })

/-- The content after `bytes` were written at `offset`; a gap before it is filled with zeros. -/
def overwrite (content : Bytes) (offset : Nat) (bytes : Bytes) : Bytes :=
  if bytes = [] then content
  else content.take offset ++ List.replicate (offset - content.length) 0 ++ bytes ++
    content.drop (offset + bytes.length)

def write (store : Store) (handle : Handle) (bytes : Bytes) : Except FileError Store :=
  match store.opened[handle]? with
  | none => .error .badDescriptor
  | some file =>
    if !file.writes then .error .badDescriptor
    else
      match store.files.get? file.node with
      | some (.device .full) => if bytes = [] then .ok store else .error .noSpace
      | some (.pipe _ content) =>
        .ok { store with files := store.files.setContent file.node (content ++ bytes) }
      | _ =>
        let content := store.files.content file.node
        let offset := if file.appends then content.length else file.offset
        .ok
          { files := store.files.setContent file.node (overwrite content offset bytes)
            opened :=
              store.opened.setIfInBounds handle { file with offset := offset + bytes.length } }

def tryWrite (store : Store) (handle : Handle) (bytes : Bytes) : Store :=
  match store.write handle bytes with
  | .ok store => store
  | .error _ => store

def content (store : Store) (handle : Handle) : Bytes :=
  match store.opened[handle]? with
  | some file => store.files.content file.node
  | none => []

/-- The open files of a process whose standard input is a file with the given content, whose
standard output is appended to another file, and whose standard error goes to `log`. None of them
has a name. -/
def withStreams (files : FileSystem) (input : Bytes) (log : Node) : Streams × Store :=
  let (source, files) := files.add (.file redirectedMode input)
  let (sink, files) := files.add (.file redirectedMode [])
  let (log, files) := files.add log
  let (input, store) := { files : Store }.push { node := source, reads := true }
  let (output, store) := store.push { node := sink, writes := true, appends := true }
  let (errors, store) := store.push { node := log, writes := true, appends := true }
  ({ input, output, errors }, store)

def writeText (store : Store) (handle : Handle) (text : String) : Store :=
  store.tryWrite handle (Text.utf8 text)

@[simp] theorem files_push (store : Store) (file : OpenFile) :
    (store.push file).2.files = store.files := rfl

@[simp] theorem overwrite_nil (content : Bytes) (offset : Nat) :
    overwrite content offset [] = content := rfl

/-- Writing at the end of a file appends. -/
theorem overwrite_length (content bytes : Bytes) :
    overwrite content content.length bytes = content ++ bytes := by
  unfold overwrite
  split
  · next h => simp [h]
  · simp

end Store

end JobShell
