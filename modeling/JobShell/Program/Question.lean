import JobShell.Number.Integer
import JobShell.Program.Arguments

/-!
Questions about files, numbers and texts, as `test` asks them.
-/

namespace JobShell.Question

def node? (view : Task.View) (path : String) : Option Node :=
  match view.store.find view.context.handle? view.context.cwd (Text.ofRaw path) with
  | .ok id => view.store.files.get? id
  | .error _ => none

def unfollowed? (view : Task.View) (path : String) : Option Node :=
  match view.store.files.findUnfollowed view.context.cwd (Text.ofRaw path) with
  | .ok id => view.store.files.get? id
  | .error _ => none

def modeOf : Node → Nat
  | .directory d => d.mode
  | .file mode _ => mode
  | .program _ => 0o755
  | _ => 0o666

def isLink : Node → Bool
  | .link _ => true
  | _ => false

def holds (letter : Char) (node : Node) : Bool :=
  match letter, node with
  | 'e', _ | 'a', _ | 'O', _ | 'G', _ => true
  | 'r', node => node.grants .read
  | 'w', node => node.grants .write
  | 'x', node => node.grants .execute
  | 'd', .directory _ => true
  | 'f', .file _ _ | 'f', .program _ => true
  | 's', .file _ content => content != []
  | 's', .directory _ | 's', .program _ => true
  | 'c', .device _ => true
  | 'p', .pipe .. => true
  | 'u', node => modeOf node &&& 0o4000 != 0
  | 'g', node => modeOf node &&& 0o2000 != 0
  | 'k', node => modeOf node &&& 0o1000 != 0
  | _, _ => false

def askFile (view : Task.View) (letter : Char) (path : String) : Bool :=
  if letter = 'h' ∨ letter = 'L' then (unfollowed? view path).any isLink
  else (node? view path).any (holds letter)

def sameFile (view : Task.View) (a b : String) : Bool :=
  let find (path : String) : Option NodeId :=
    (view.store.find view.context.handle? view.context.cwd (Text.ofRaw path)).toOption
  match find a, find b with
  | some x, some y => x == y
  | _, _ => false

/-- Whether the first file exists and the second does not. Files that both exist count as equally
old. -/
def onlyFirst (view : Task.View) (a b : String) : Bool :=
  (node? view a).isSome && (node? view b).isNone

def compareNumbers (operator : String) (a b : Int) : Bool :=
  match operator with
  | "-eq" => a == b
  | "-ne" => a != b
  | "-lt" => a < b
  | "-le" => a ≤ b
  | "-gt" => a > b
  | _ => a ≥ b

def numeric : List String := ["-eq", "-ne", "-lt", "-le", "-gt", "-ge"]

def filing : List String := ["-nt", "-ot", "-ef"]

def compareFiles (view : Task.View) (operator a b : String) : Bool :=
  match operator with
  | "-nt" => onlyFirst view a b
  | "-ot" => onlyFirst view b a
  | _ => sameFile view a b

end JobShell.Question
