import JobShell.Files.Error
import JobShell.Text.Utf8

/-!
A tree of files. Nodes have numbers that they keep under every name, so a file that is renamed or
removed stays what it is for whoever holds its number. The mode of a file or directory says what
its owner may do with it; everything here belongs to one owner.
-/

namespace JobShell

abbrev NodeId := Nat

def directoryMode : Nat := 0o777

/-- A directory: where `..` leads, its mode, and its entries in the order they were made. -/
structure Directory where
  parent : NodeId
  mode : Nat := directoryMode
  entries : List (String × NodeId) := []
  deriving DecidableEq, Repr

inductive Device where
  /-- Reads as empty and swallows what is written. -/
  | null
  /-- Reads as zeros without end and swallows what is written. -/
  | zero
  /-- Reads as zeros without end and has no room for what is written. -/
  | full
  /-- The terminal of a process that has none. -/
  | terminal
  deriving DecidableEq, Repr

inductive Node where
  | directory (content : Directory)
  | file (mode : Nat) (content : Bytes)
  | link (target : String)
  | device (device : Device)
  /-- A program of the system, which can be run and not read. -/
  | program (name : String)
  /-- A pipe, with what was written and not read yet. One that has a name has a mode. -/
  | pipe (mode : Option Nat) (content : Bytes)
  /-- Stands for the open file that whoever asks has under a number. -/
  | descriptor (number : Nat)
  deriving DecidableEq, Repr

inductive Permission where
  | read
  | write
  /-- To run a file, or to look up a name in a directory. -/
  | execute
  deriving DecidableEq, Repr

namespace Permission

def bit : Permission → Nat
  | read => 0o400
  | write => 0o200
  | execute => 0o100

def grantedBy (permission : Permission) (mode : Nat) : Bool :=
  mode &&& permission.bit != 0

end Permission

def Directory.grants (d : Directory) (permission : Permission) : Bool :=
  permission.grantedBy d.mode

/-- Whether the node grants a permission. Programs of the system can be run and not changed;
devices can be read and written. -/
def Node.grants (permission : Permission) : Node → Bool
  | directory d => d.grants permission
  | file mode _ => permission.grantedBy mode
  | program _ => permission != .write
  | link _ => true
  | pipe (some mode) _ => permission.grantedBy mode
  | device _ | pipe none _ | descriptor _ => permission != .execute

/-- The nodes by number; number 0 is the root directory. -/
structure FileSystem where
  nodes : Array Node := #[.directory { parent := 0 }]
  deriving DecidableEq, Repr, Inhabited

namespace FileSystem

def root : NodeId := 0

def get? (fs : FileSystem) (id : NodeId) : Option Node :=
  fs.nodes[id]?

def directory? (fs : FileSystem) (id : NodeId) : Option Directory :=
  match fs.get? id with
  | some (.directory d) => some d
  | _ => none

def grants (fs : FileSystem) (id : NodeId) (permission : Permission) : Bool :=
  (fs.get? id).any (·.grants permission)

def set (fs : FileSystem) (id : NodeId) (node : Node) : FileSystem :=
  ⟨fs.nodes.setIfInBounds id node⟩

def add (fs : FileSystem) (node : Node) : NodeId × FileSystem :=
  (fs.nodes.size, ⟨fs.nodes.push node⟩)

/-- Names a node in a directory, in place of what had the name before. -/
def enter (fs : FileSystem) (dir : NodeId) (name : String) (id : NodeId) : FileSystem :=
  match fs.directory? dir with
  | some d =>
    fs.set dir (.directory { d with entries := d.entries.filter (·.1 != name) ++ [(name, id)] })
  | none => fs

def leave (fs : FileSystem) (dir : NodeId) (name : String) : FileSystem :=
  match fs.directory? dir with
  | some d => fs.set dir (.directory { d with entries := d.entries.filter (·.1 != name) })
  | none => fs

def nameOf? (fs : FileSystem) (id : NodeId) : Option (NodeId × String) :=
  match fs.directory? id with
  | some d =>
    match fs.directory? d.parent with
    | some p => (p.entries.find? (·.2 == id)).map fun entry => (d.parent, entry.1)
    | none => none
  | none => none

/-- The names that lead from the root to a directory, in front of the names given, in at most
`fuel` steps. -/
def climb (fs : FileSystem) (fuel : Nat) (id : NodeId) (names : List String) :
    Option (List String) :=
  if id = root then some names
  else
    match fuel with
    | 0 => none
    | fuel + 1 =>
      match fs.nameOf? id with
      | some (parent, name) => climb fs fuel parent (name :: names)
      | none => none

def pathOfNames (names : List String) : String :=
  "/" ++ String.intercalate "/" names

/-- The absolute path of a directory without links; none if it was removed. -/
def pathOf? (fs : FileSystem) (id : NodeId) : Option String :=
  (fs.climb fs.nodes.size id []).map pathOfNames

/-- Whether a directory can still be reached from the root. -/
def isReachable (fs : FileSystem) (id : NodeId) : Bool :=
  (fs.climb fs.nodes.size id []).isSome

@[simp] theorem get?_set_self {fs : FileSystem} {id : NodeId} (h : id < fs.nodes.size)
    (node : Node) : (fs.set id node).get? id = some node := by
  simp [get?, set, h]

theorem get?_set_of_ne (fs : FileSystem) {id other : NodeId} (node : Node) (h : other ≠ id) :
    (fs.set id node).get? other = fs.get? other := by
  simp [get?, set, Ne.symm h]

@[simp] theorem get?_add_self (fs : FileSystem) (node : Node) :
    (fs.add node).2.get? (fs.add node).1 = some node := by
  simp [get?, add]

end FileSystem

end JobShell
