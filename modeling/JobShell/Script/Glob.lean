import JobShell.Files.Lookup
import JobShell.Script.Pattern
import JobShell.Text.Raw

/-!
Paths that match a pattern, in the order of their bytes. What comes between slashes is matched on its
own; a point at the start of a name has to be matched by a point.
-/

namespace JobShell.Script

def Pattern.components (pattern : Pattern) : List Pattern :=
  pattern.splitOnP fun (c, _) => c == '/'

def Pattern.startsWithPoint : Pattern → Bool
  | ('\\', false) :: ('.', _) :: _ => true
  | ('.', _) :: _ => true
  | _ => false

/-- The directory that a path leads to; an empty path leads to the working directory. -/
def directoryAt (fs : FileSystem) (cwd : NodeId) (path : List Char) : Option Directory :=
  let path := if path = [] then "." else Text.ofRaw (String.ofList path)
  match fs.find cwd path with
  | .ok id => (fs.directory? id).filter (·.grants .read)
  | .error _ => none

def matchingNames (fs : FileSystem) (cwd : NodeId) (path : List Char) (pattern : Pattern) :
    List (List Char) :=
  match directoryAt fs cwd path with
  | none => []
  | some directory =>
    let names := [".", ".."] ++ directory.entries.map fun entry => Text.raw entry.1
    (names.map String.toList).filter fun name =>
      (name.head? != some '.' || pattern.startsWithPoint) && pattern.accepts name

def matchComponents (fs : FileSystem) (cwd : NodeId) (path : List Char) :
    List Pattern → List (List Char)
  | [] => []
  | [last] =>
    if last.isSpecial then (matchingNames fs cwd path last).map (path ++ ·)
    else
      let whole := path ++ last.text
      match fs.findUnfollowed cwd (Text.ofRaw (String.ofList whole)) with
      | .ok _ => [whole]
      | .error _ => []
  | component :: rest =>
    if component.isSpecial then
      (matchingNames fs cwd path component).flatMap fun name =>
        matchComponents fs cwd (path ++ name ++ ['/']) rest
    else matchComponents fs cwd (path ++ component.text ++ ['/']) rest

def textLe : List Char → List Char → Bool
  | [], _ => true
  | _, [] => false
  | a :: as, b :: bs => a < b || (a == b && textLe as bs)

def matchingPaths (fs : FileSystem) (cwd : NodeId) (pattern : Pattern) : List (List Char) :=
  (matchComponents fs cwd [] pattern.components).mergeSort textLe

end JobShell.Script
