import JobShell.Program.Print
import JobShell.Script.Builtin.Output

/-!
The builtins `cd` and `pwd`. The script keeps the path by which it came to the working directory: a
part `..` takes off the last name of that path.
-/

namespace JobShell.Script.Builtin

/-- A path in reverse without its last name; `least` characters of it stay. -/
def withoutLast (least : Nat) (path : List Char) : List Char :=
  let rest := (path.drop 1).dropWhile (· != '/')
  if rest.length < least then path.drop (path.length - least) else rest

def goOn (least : Nat) (path : List Char) : List (List Char) → List Char
  | [] => path
  | name :: rest =>
    match name with
    | [] | ['.'] => goOn least path rest
    | ['.', '.'] =>
      goOn least (if least < path.length then withoutLast least path else path) rest
    | name => goOn least ('/' :: name.reverse ++ path) rest

def logicalPath (directory path : String) : Option String :=
  let chars := path.toList
  let finish (least : Nat) (start : List Char) : Option String :=
    let reached := goOn least start (chars.splitOnP (· == '/'))
    let path := if least < reached.length then reached.drop 1 else reached
    some (String.ofList path.reverse)
  match chars with
  | '/' :: '/' :: '/' :: _ => finish 1 ['/']
  | '/' :: '/' :: _ => finish 2 ['/', '/']
  | '/' :: _ => finish 1 ['/']
  | _ =>
    if directory = "" then none
    else
      let start := directory.toList.reverse
      let start := if start.head? = some '/' then start else '/' :: start
      let least := if 1 < start.length ∧ directory.toList[1]? = some '/' then 2 else 1
      finish least start

def enter (path : String) : Task Bool := do
  match ← Task.stat path true with
  | .ok (id, .directory d) =>
    if d.grants .execute then
      Task.modifyContext fun context => { context with cwd := id }
      return true
    else return false
  | _ => return false

/-- Takes note of the path of the working directory; none if it has to be looked up. -/
def noteDirectory (path : Option String) (change : Bool) : Run Unit := do
  let old ← Run.know (·.directory)
  if change then Run.assignExported "OLDPWD" old
  let path ← match path with
    | some path => pure path
    | none => do
      match ← Print.workingDirectory? with
      | some path => pure path
      | none =>
        Run.warn "getcwd() failed: No such file or directory"
        pure ""
  modify fun state => { state with directory := path }
  Run.assignExported "PWD" path

def changeDirectory (physical : Bool) (path : String) : Run Bool := do
  let directory ← Run.know (·.directory)
  let logical := if physical then none else logicalPath directory path
  if ← enter (logical.getD path) then
    noteDirectory logical true
    return true
  else return false

def isPlaced (path : String) : Bool :=
  match path.toList with
  | '/' :: _ | ['.'] | '.' :: '/' :: _ | ['.', '.'] | '.' :: '.' :: '/' :: _ => true
  | _ => false

def firstDirectory : List (String × Bool) → Task (Option (String × Bool))
  | [] => pure none
  | (path, told) :: rest => do
    if ← Task.isDirectory path then return some (path, told) else firstDirectory rest

def cd : Body := fun args => do
  let (given, names) ← options ['L', 'P'] [] (args.length + 1) args
  let physical := given.getLast?.any (·.1 == 'P')
  let (wanted, told) ← match names with
    | [] => do pure ((← Run.value? "HOME").getD "", false)
    | "-" :: _ => do pure ((← Run.value? "OLDPWD").getD "", true)
    | name :: _ => pure (name, false)
  let go (path : String) (told : Bool) : Run Nat := do
    if ← changeDirectory physical path then
      if told then Run.print ((← Run.know (·.directory)) ++ "\n")
      return 0
    else Run.fail ("can't cd to " ++ wanted)
  if isPlaced wanted then go wanted told
  else
    let name := if wanted = "" then "." else wanted
    match ← Run.value? "CDPATH" with
    | none => go name told
    | some list =>
      let candidates := (list.toList.splitOnP (· == ':')).map fun directory =>
        if directory = [] then (name, told) else (String.ofList directory ++ "/" ++ name, true)
      match ← firstDirectory candidates with
      | some (path, told) => go path told
      | none => go name told

def pwd : Body := fun args => do
  let (given, _) ← options ['L', 'P'] [] (args.length + 1) args
  let path ←
    if given.getLast?.any (·.1 == 'P') then
      match ← Print.workingDirectory? with
      | some path => pure path
      | none =>
        Run.warn "getcwd() failed: No such file or directory"
        pure ""
    else Run.know (·.directory)
  Run.print (path ++ "\n")
  return 0

end JobShell.Script.Builtin
