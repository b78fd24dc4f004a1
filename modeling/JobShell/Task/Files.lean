import JobShell.Files.Edit
import JobShell.Task.Basic
import JobShell.Text.Raw

/-!
What programs ask of the system about files. Paths, and the texts that are read and written, have
one character for each byte.
-/

namespace JobShell.Task

def withStore {α : Type} (f : Store → (Nat → Option Handle) → NodeId → Except FileError (α × Store)) :
    Task (Except FileError α) :=
  change fun view =>
    match f view.store view.context.handle? view.context.cwd with
    | .ok (a, store) => (.ok a, { view with store })
    | .error error => (.error error, view)

def edit (f : FileSystem → NodeId → Except FileError FileSystem) : Task (Except FileError Unit) :=
  withStore fun store _ cwd => (f store.files cwd).map fun files => ((), { store with files })

def openForReading (path : String) : Task (Except FileError Handle) :=
  withStore fun store own cwd => store.openForReading own cwd (Text.ofRaw path)

def createdMode : Nat := 0o666

/-- Opens a file for writing; it is created if it does not exist. -/
def openForWriting (path : String) (start : WriteStart) : Task (Except FileError Handle) := do
  let mode ← look fun view => view.context.modeOf createdMode
  withStore fun store own cwd => store.openForWriting own cwd (Text.ofRaw path) mode start

/-- Whether reading from an open file has to wait: it is an empty pipe that can still be written
to. -/
def mustWait (view : View) (handle : Handle) : Bool :=
  match view.store.opened[handle]? with
  | some file =>
    match view.store.files.get? file.node with
    | some (.pipe _ []) => view.isOpen file.node OpenFile.writes
    | _ => false
  | none => false

/-- Reads at most `count` bytes of an open file; none at its end. -/
def readHandle (handle : Handle) (count : Nat) : Task (Except FileError Bytes) :=
  request fun view =>
    if mustWait view handle then none
    else
      match view.store.read handle count with
      | .ok (bytes, store) => some (.ok bytes, { view with store })
      | .error error => some (.error error, view)

def read (number count : Nat) : Task (Except FileError Bytes) := do
  match ← look (·.context.handle? number) with
  | some handle => readHandle handle count
  | none => return .error .badDescriptor

/-- How much is read at a time where it does not matter. -/
def blockBytes : Nat := 131072

def readRest (fuel : Nat) (handle : Handle) (done : List Bytes) : Task (Except FileError Bytes) :=
  match fuel with
  | 0 => pure (.ok done.reverse.flatten)
  | fuel + 1 => do
    match ← readHandle handle blockBytes with
    | .error error => return .error error
    | .ok [] => return .ok done.reverse.flatten
    | .ok block => readRest fuel handle (block :: done)

/-- More blocks than any file has. -/
def blockLimit : Nat := 1000000

def readAll (handle : Handle) : Task (Except FileError Bytes) :=
  readRest blockLimit handle []

def isBroken (view : View) (handle : Handle) : Bool :=
  match view.store.opened[handle]? with
  | some file =>
    match view.store.files.get? file.node with
    | some (.pipe _ _) => !view.isOpen file.node OpenFile.reads
    | _ => false
  | none => false

def writeBytes (number : Nat) (bytes : Bytes) : Task (Except FileError Unit) :=
  change fun view =>
    match view.context.handle? number with
    | none => (.error .badDescriptor, view)
    | some handle =>
      if isBroken view handle then
        (.error .brokenPipe, { view with sent := view.sent ++ [(view.self, .brokenPipe)] })
      else
        match view.store.write handle bytes with
        | .ok store => (.ok (), { view with store })
        | .error error => (.error error, view)

def write (number : Nat) (text : String) : Task (Except FileError Unit) :=
  writeBytes number (Text.rawBytes text)

def complain (text : String) : Task Unit := do
  let _ ← write 2 text

def stat (path : String) (follow : Bool) : Task (Except FileError (NodeId × Node)) :=
  withStore fun store own cwd => do
    let path := Text.ofRaw path
    let id ← if follow then store.find own cwd path else store.files.findUnfollowed cwd path
    match store.files.get? id with
    | some node => .ok ((id, node), store)
    | none => .error .notFound

def isDirectory (path : String) : Task Bool := do
  match ← stat path true with
  | .ok (_, .directory _) => return true
  | _ => return false

end JobShell.Task
