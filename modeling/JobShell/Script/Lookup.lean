import JobShell.Program.Search
import JobShell.Script.Builtin.Directory
import JobShell.Script.Builtin.Process
import JobShell.Script.Grammar
import JobShell.Script.Redirect

/-!
What the name of a command stands for: a function, a builtin or a program.
-/

namespace JobShell.Script

def usualPath : String :=
  "/usr/local/sbin:/usr/local/bin:/usr/sbin:/usr/bin:/sbin:/bin"

def builtins : List (String × Builtin.Body) :=
  [("[", Builtin.bracket), (":", Builtin.success), ("alias", Builtin.setAliases),
    ("bg", Builtin.moveJob), ("break", Builtin.leaveLoops .leave), ("cd", Builtin.cd),
    ("chdir", Builtin.cd), ("continue", Builtin.leaveLoops .next), ("echo", Builtin.echo),
    ("exit", Builtin.exit), ("export", Builtin.markExported), ("false", Builtin.failure),
    ("fg", Builtin.moveJob), ("getopts", Builtin.getopts), ("jobs", Builtin.jobs),
    ("kill", Builtin.kill), ("local", Builtin.localize), ("printf", Builtin.printf),
    ("pwd", Builtin.pwd), ("read", Builtin.read), ("readonly", Builtin.markFixed),
    ("return", Builtin.leaveFunction), ("set", Builtin.set), ("shift", Builtin.shift),
    ("test", Builtin.test), ("times", Builtin.times), ("trap", Builtin.trap),
    ("true", Builtin.success), ("ulimit", Builtin.ulimit), ("umask", Builtin.umask),
    ("unalias", Builtin.unalias), ("unset", Builtin.unset), ("wait", Builtin.wait)]

def runningBuiltins : List String :=
  [".", "command", "eval", "exec", "hash", "type"]

def isBuiltin (name : String) : Bool :=
  runningBuiltins.contains name || (builtins.lookup name).isSome

def assigningBuiltins : List String :=
  ["alias", "export", "local", "readonly"]

inductive Meaning where
  | function (body : Command)
  | builtin
  | program

namespace Run

/-- What a name stands for; `functions` says whether functions count. -/
def meaning (functions : Bool) (name : String) : Run Meaning := do
  let known ← know (·.functions)
  match if functions then known.lookup name else none with
  | some f => return .function f.body
  | none => return if isBuiltin name then .builtin else .program

def runFailure : FileError → String × Nat
  | .notFound | .notDirectory => ("not found", 127)
  | .tooManyLinks => (FileError.tooManyLinks.message, 127)
  | .nameTooLong => (FileError.nameTooLong.message, 127)
  | error => (error.message, 126)

def canRun (path : String) : Task (Except FileError Bool) := do
  match ← Task.stat path true with
  | .error error => return .error error
  | .ok (_, .program _) => return .ok true
  | .ok (_, .file mode _) => return .ok (Permission.execute.grantedBy mode)
  | .ok _ => return .ok false

def firstRunnable (failure : FileError) : List String → Task (Except FileError String)
  | [] => pure (.error failure)
  | path :: rest => do
    match ← canRun path with
    | .ok true => return .ok path
    | .ok false => firstRunnable .denied rest
    | .error .notFound | .error .notDirectory => firstRunnable failure rest
    | .error error => firstRunnable error rest

def locate (usual : Bool) (name : String) : Run (Except FileError String) := do
  if name.toList.contains '/' then return .ok name
  else
    let list ← if usual then pure (some usualPath) else value? "PATH"
    match list with
    | none => return .error .notFound
    | some list =>
      let candidates := (list.toList.splitOnP (· == ':')).map fun directory =>
        if directory = [] then name else String.ofList directory ++ "/" ++ name
      firstRunnable .notFound candidates

def track (name : String) : Run (Except FileError String) := do
  match ← know (·.tracked.get? name) with
  | some path => return .ok path
  | none =>
    let found ← locate false name
    if let .ok path := found then
      if !name.toList.contains '/' then
        modify fun state => { state with tracked := state.tracked ++ [(name, path)] }
    return found

def imageAt (path : String) : Task (Except FileError Image) :=
  Task.look fun view =>
    Image.ofPath view.store view.held view.context.handle? view.context.cwd (Text.ofRaw path)

end Run

namespace Builtin

def describe (verbose usual : Bool) (name : String) : Run Nat := do
  let tell (long short : String) : Run Nat := do
    Run.print ((if verbose then name ++ long else short) ++ "\n")
    return 0
  let alias? := (← Run.know (·.aliases)).get? name
  if Reader.keywords.contains name then tell " is a shell keyword" name
  else
    match alias? with
    | some text =>
      tell (" is an alias for " ++ text) ("alias " ++ name ++ "=" ++ quote text)
    | none =>
      match ← Run.meaning true name with
      | .function _ => tell " is a shell function" name
      | .builtin =>
        let kind := if Reader.specialBuiltins.contains name then "special " else ""
        tell (" is a " ++ kind ++ "shell builtin") name
      | .program =>
        match ← Run.know (·.tracked.get? name) with
        | some path => tell (" is a tracked alias for " ++ path) path
        | none =>
          let found ← match ← Run.locate usual name with
            | .ok path => do pure ((← Task.stat path true).toOption.map fun _ => path)
            | .error _ => pure none
          match found with
          | some path => tell (" is " ++ path) path
          | none =>
            if verbose then Run.print (name ++ ": not found\n")
            return 127

def type : Body := fun args => do
  let codes ← (← operands args).mapM (describe true false)
  return codes.foldl (fun all code => if code = 0 then all else code) 0

def command : Body := fun args => do
  let (given, names) ← options ['p', 'v', 'V'] [] (args.length + 1) args
  match names.head?, given.any (·.1 != 'p') with
  | some name, true => describe (given.any (·.1 == 'V')) (given.any (·.1 == 'p')) name
  | _, _ => return 0

def trackKey (name : String) : Nat :=
  let bytes := (Text.rawBytes name).map (·.toNat)
  (bytes.headD 0 * 16 + bytes.foldl (· + ·) 0) % 31

/-- Looks for programs; without names, tells which were looked for. -/
def hash : Body := fun args => do
  let (given, names) ← options ['r', 'v'] [] (args.length + 1) args
  if given.any (·.1 == 'r') then
    modify fun state => { state with tracked := [] }
    return 0
  else if names = [] then
    let tracked ← Run.know (·.tracked)
    (tracked.mergeSort fun a b => trackKey a.1 ≤ trackKey b.1).forM fun entry =>
      Run.print (entry.2 ++ "\n")
    return 0
  else
    let codes ← names.mapM fun name => do
      match ← Run.meaning true name with
      | .program =>
        modify fun state => { state with tracked := state.tracked.filter (·.1 != name) }
        match ← Run.track name with
        | .ok _ => return 0
        | .error error =>
          Run.warn (name ++ ": " ++ (Run.runFailure error).1)
          return 1
      | _ => return 0
    return codes.foldl max 0

end Builtin

end JobShell.Script
