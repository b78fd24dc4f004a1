import JobShell.Environment
import JobShell.Files.Basic
import JobShell.Text.Blank

/-!
From a path to a node. Links are followed on the way, `.` stays where it is and `..` goes to the
parent of the directory that was reached, not to the name before it in the path. To look up a name
in a directory takes the permission to execute it.
-/

namespace JobShell

/-- The longest path that a request may name, in bytes with the final zero. -/
def maxPathBytes : Nat := 4096

def maxNameBytes : Nat := 255

def maxLinks : Nat := 40

def endsWithSlash (path : String) : Bool :=
  path.toList.getLast? == some '/'

/-- The parts of a path between slashes. A slash at the end counts as one more part `.`, since
what is before it has to be a directory. -/
def pathNames (path : String) : List String :=
  let parts := (Text.runs (· == '/') path.toList).map String.ofList
  if endsWithSlash path && !parts.isEmpty then parts ++ ["."] else parts

inductive Place where
  /-- To a directory, by way of `.`, `..` or the root. -/
  | directory (id : NodeId)
  /-- To a name in a directory, which may be free. -/
  | entry (parent : NodeId) (name : String) (id : Option NodeId)
  deriving DecidableEq, Repr

def Place.node? : Place → Option NodeId
  | directory id => some id
  | entry _ _ id => id

namespace FileSystem

/-- Follows names from a directory on. `follow` says whether the last name is followed if it is a link;
`jump` goes on where a link was met, with the names it stands for. -/
def walkWith (fs : FileSystem) (follow : Bool)
    (jump : NodeId → List String → Except FileError Place) (here : NodeId) :
    List String → Except FileError Place
  | [] => .ok (.directory here)
  | name :: rest =>
    match fs.directory? here with
    | none => .error .notDirectory
    | some dir =>
      if !dir.grants .execute then .error .denied
      else if name = "." then walkWith fs follow jump here rest
      else if name = ".." then walkWith fs follow jump dir.parent rest
      else if maxNameBytes < name.utf8ByteSize then .error .nameTooLong
      else
        match dir.entries.lookup name with
        | none => if rest = [] then .ok (.entry here name none) else .error .notFound
        | some id =>
          match fs.get? id with
          | some (.link target) =>
            if rest = [] ∧ !follow then .ok (.entry here name (some id))
            else if target = "" then .error .notFound
            else jump (if isAbsolute target then root else here) (pathNames target ++ rest)
          | _ =>
            if rest = [] then .ok (.entry here name (some id))
            else walkWith fs follow jump id rest

/-- Follows names from a directory on, and at most `links` links. -/
def walk (fs : FileSystem) (follow : Bool) :
    Nat → NodeId → List String → Except FileError Place
  | 0 => walkWith fs follow fun _ _ => .error .tooManyLinks
  | links + 1 => walkWith fs follow (walk fs follow links)

def locate (fs : FileSystem) (cwd : NodeId) (path : String) (follow : Bool) :
    Except FileError Place :=
  if path = "" then .error .notFound
  else if path.toList.contains '\x00' then .error .invalid
  else if maxPathBytes ≤ path.utf8ByteSize then .error .nameTooLong
  else fs.walk follow maxLinks (if isAbsolute path then root else cwd) (pathNames path)

def find (fs : FileSystem) (cwd : NodeId) (path : String) : Except FileError NodeId := do
  match (← fs.locate cwd path true).node? with
  | some id => .ok id
  | none => .error .notFound

def findUnfollowed (fs : FileSystem) (cwd : NodeId) (path : String) : Except FileError NodeId := do
  match (← fs.locate cwd path false).node? with
  | some id => .ok id
  | none => .error .notFound

/-- The directory that a path leads to, with its path without links, if it can be entered. Names
are followed one at a time, so the length of `path` has no limit, but a relative path needs a way
back to the root. -/
def canonicalDirectory? (fs : FileSystem) (cwd : NodeId) (path : String) :
    Option (NodeId × String) :=
  if path = "" || path.toList.contains '\x00' || (!isAbsolute path && !fs.isReachable cwd) then none
  else
    match fs.walk true maxLinks (if isAbsolute path then root else cwd) (pathNames path) with
    | .ok place => do
      let id ← place.node?
      let dir ← fs.directory? id
      let canonical ← fs.pathOf? id
      if dir.grants .execute && canonical.utf8ByteSize < maxPathBytes then some (id, canonical)
      else none
    | .error _ => none

theorem walk_nil (fs : FileSystem) (follow : Bool) (links : Nat) (here : NodeId) :
    fs.walk follow links here [] = .ok (.directory here) := by
  cases links <;> rfl

theorem walk_cons (fs : FileSystem) (follow : Bool) (links : Nat) (here : NodeId) (name : String)
    (rest : List String) :
    fs.walk follow links here (name :: rest) =
      match fs.directory? here with
      | none => .error .notDirectory
      | some dir =>
        if !dir.grants .execute then .error .denied
        else if name = "." then fs.walk follow links here rest
        else if name = ".." then fs.walk follow links dir.parent rest
        else if maxNameBytes < name.utf8ByteSize then .error .nameTooLong
        else
          match dir.entries.lookup name with
          | none => if rest = [] then .ok (.entry here name none) else .error .notFound
          | some id =>
            match fs.get? id with
            | some (.link target) =>
              if rest = [] ∧ !follow then .ok (.entry here name (some id))
              else if target = "" then .error .notFound
              else
                match links with
                | 0 => .error .tooManyLinks
                | links + 1 =>
                  fs.walk follow links (if isAbsolute target then root else here)
                    (pathNames target ++ rest)
            | _ =>
              if rest = [] then .ok (.entry here name (some id))
              else fs.walk follow links id rest := by
  cases links <;> rfl

end FileSystem

end JobShell
