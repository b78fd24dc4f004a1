import JobShell.Script.Lookup

/-!
Running commands. A command leaves a status; how else it may leave off is a `Jump`.
-/

namespace JobShell.Script

structure Setup where
  /-- Whether its failure is looked at, so that it does not end a script that ends on failures. -/
  tested : Bool := false
  /-- Whether nothing comes after it, so that a program can take the place of the script. -/
  last : Bool := false
  deriving DecidableEq, Repr

structure Interpreter where
  command : Setup → Command → Run Nat
  /-- A program, which ends the process that becomes it. -/
  program : Image → (argv : List String) → Variables → Task UInt8

namespace Interpreter

/-- Reads the next complete line of commands of a source, which is asked for more text with
`refill` where that is needed, at most `fuel` times. -/
def readLine (refill : Run (Option (List Char))) (fuel : Nat) (source : Source) :
    Run (Option Command × Source) := do
  match fuel with
  | 0 => return (none, source)
  | fuel + 1 =>
    let state ← get
    match Reader.line.run
        { source with aliases := state.aliases, nextDocument := state.nextDocument } with
    | .ok (command, after) =>
      modify fun state =>
        { state with
          documents := after.documents ++ state.documents, nextDocument := after.nextDocument
          reached := after.line }
      if ← Run.isOn .verbose then
        let read := source.rest.take (source.rest.length - after.rest.length)
        Task.complain (String.ofList read)
      return (command, { after with documents := [] })
    | .error .wantsMore =>
      match ← refill with
      | some text => readLine refill fuel { source with rest := source.rest ++ text }
      | none => readLine refill fuel { source with more := false }
    | .error (.wrong line message) =>
      modify fun state => { state with line }
      Run.fail message

/-- Runs the lines of a source, at most `fuel` of them. The last of them may be the last command of
all if `setup` says so. -/
def runSource (i : Interpreter) (refill : Run (Option (List Char))) (setup : Setup) (fuel : Nat)
    (status : Nat) (source : Source) : Run Nat := do
  match fuel with
  | 0 => return status
  | fuel + 1 =>
    match ← readLine refill limit source with
    | (none, _) => return status
    | (some .nothing, source) => runSource i refill setup fuel status source
    | (some command, source) =>
      let isLast := match source.pushed with
        | some .atEnd => true
        | _ => false
      let status ← i.command { setup with last := setup.last && isLast } command
      runSource i refill setup fuel status source

def runText (i : Interpreter) (setup : Setup) (text : String) : Run Nat :=
  i.runSource (pure none) setup limit 0 { rest := text.toList.filter (· != '\x00') }

def checkSignals (i : Interpreter) : Run Unit := do
  let pending ← Run.takeSignals
  if pending ≠ [] then
    (pending.mergeSort fun a b => a.number ≤ b.number).forM fun signal => do
      let state ← get
      match state.traps.lookup signal.number with
      | some text =>
        modify fun state => { state with trapStatus := state.trapStatus.or (some state.status) }
        let _ ← i.runText {} text
        modify fun now => { now with trapStatus := state.trapStatus, status := state.status }
      | none => if signal = .interrupt then Run.dieBy signal

/-- Runs the action for the end of the script, if there is one; it may change the status. -/
def finish (i : Interpreter) : Run Unit := do
  let state ← get
  match state.traps.lookup 0 with
  | none => return
  | some text =>
    modify fun state =>
      { state with
        traps := state.traps.filter (·.1 != 0)
        trapStatus := some state.status
        loopDepth := 0 }
    let _ ← Run.attempt (i.runText {} text)
    modify fun now => { now with status := now.trapStatus.getD state.status }

def spawn (i : Interpreter) (prepare : Run Unit) (setup : Setup) (command : Command) : Run Pid :=
  Run.spawn i.finish do
    prepare
    let _ ← i.command { setup with last := true } command

def hidden (n : Nat) : Nat := 100 + n

def firstHidden : Nat := 10

def expander (i : Interpreter) : Expander where
  output command := do
    match command with
    | .nothing => return []
    | _ =>
      let (source, sink) ← Run.makePipe
      Run.place (hidden 0) source
      Run.place (hidden 1) sink
      let pid ← i.spawn
        (Task.modifyContext fun context =>
          ((context.setHandle 1 sink).close (hidden 0)).close (hidden 1)) {} command
      Task.modifyContext (·.close (hidden 1))
      let bytes ← Task.readAll source
      Task.modifyContext (·.close (hidden 0))
      let status ← Run.waitForeground [pid]
      modify fun state => { state with outputStatus := status }
      let text := match bytes with
        | .ok bytes => (Text.ofBytes bytes).toList.filter (· != '\x00')
        | .error _ => []
      return (text.reverse.dropWhile (· == '\n')).reverse

def tracePrefix (i : Interpreter) : Run String := do
  let text := ((← Run.value? "PS4").getD "").toList
  let inner := (Reader.nested Reader.maxDepth).inner
  match (Reader.documentText inner [] false limit false []).run { rest := text } with
  | .ok (parts, _) => i.expander.document parts.reverse
  | .error _ => return String.ofList text

def trace (i : Interpreter) (errors : Option Handle) (words : List String) : Run Unit := do
  if (← Run.isOn .xtrace) && !(← Run.know (·.tracing)) then
    modify fun state => { state with tracing := true }
    let start ← i.tracePrefix
    modify fun state => { state with tracing := false }
    let line := start ++ String.intercalate " " words ++ "\n"
    if let some handle := errors then Run.writeTo handle line

def become (i : Interpreter) (path : String) (argv : List String) : Run Nat := do
  match ← Run.imageAt path with
  | .error error =>
    let (message, status) := Run.runFailure error
    Run.quit (argv.headD "" ++ ": " ++ message) status
  | .ok image =>
    let vars ← Run.exported
    Task.modifyContext fun context =>
      let kept := context.descriptors.filter fun entry => entry.1 < firstHidden
      { context.forProgram with descriptors := kept }
    let code ← i.program image argv vars
    Task.exit code

/-- Runs a program: in the place of the script if nothing comes after it, or else in a process of
its own. -/
def runProgram (i : Interpreter) (setup : Setup) (path : String) (argv : List String) :
    Run Nat := do
  let trapped := (← Run.know (·.traps)).any (·.2 != "")
  if setup.last && !trapped then i.become path argv
  else
    let pid ← Run.spawn (pure ()) do
      let _ ← i.become path argv
    Run.waitForeground [pid]

def flush (name : String) : Run Nat := do
  let text := String.join (← Run.know (·.output)).reverse
  modify fun state => { state with output := [] }
  if text = "" then return 0
  else
    match ← Task.write 1 text with
    | .ok () => return 0
    | .error _ =>
      Run.warn (name ++ ": I/O error")
      return 1

def runFile (i : Interpreter) (args : List String) : Run Nat := do
  match ← Builtin.operands args with
  | [] => return 0
  | name :: _ =>
    let path ←
      if name.toList.contains '/' then pure name
      else
        let list := ((← Run.value? "PATH").getD "").toList.splitOnP (· == ':')
        let candidates := list.map fun directory =>
          if directory = [] then name else String.ofList directory ++ "/" ++ name
        match ← candidates.findM? fun path => (Run.isRegular path : Run Bool) with
        | some path => pure path
        | none => Run.fail (name ++ ": not found")
    let handle ← Run.openFile .read path
    let text ← match ← Task.readAll handle with
      | .ok bytes => pure (Text.ofBytes bytes)
      | .error _ => pure ""
    modify fun state => { state with builtin := some path }
    match ← Run.attempt (i.runText {} text) with
    | .error .returned => Run.know (·.status)
    | result => Run.resume result

def builtinBody (i : Interpreter) (setup : Setup) (name : String) (args : List String) :
    Run Nat := do
  match name with
  | "eval" => i.runText { tested := setup.tested } (String.intercalate " " args)
  | "." => i.runFile args
  | "exec" =>
    match args with
    | [] => return 0
    | command :: _ =>
      match ← Run.locate false command with
      | .ok path => i.become path args
      | .error error =>
        let (message, status) := Run.runFailure error
        Run.quit (command ++ ": " ++ message) status
  | "command" => Builtin.command args
  | "type" => Builtin.type args
  | "hash" => Builtin.hash args
  | _ =>
    match builtins.lookup name with
    | some body => body args
    | none => return 0

/-- Runs a builtin. A failure in one that is not special is only a status. -/
def runBuiltin (i : Interpreter) (setup : Setup) (special : Bool) (name : String)
    (args : List String) : Run Nat := do
  let outer ← Run.know (·.builtin)
  modify fun state => { state with builtin := some name }
  let result ← Run.attempt (i.builtinBody setup name args)
  let flushed ← flush name
  modify fun state => { state with builtin := outer }
  match result with
  | .ok status => return max status flushed
  | .error .failure => if special then throw .failure else Run.know (·.status)
  | .error jump => throw jump

def maxCalls : Nat := 1000

def runFunction (i : Interpreter) (setup : Setup) (body : Command) (args : List String) :
    Run Nat := do
  let before ← get
  if before.functionDepth = maxCalls then
    Run.fail ("Maximum function recursion depth (" ++ toString maxCalls ++ ") reached")
  modify fun state =>
    { state with
      parameters := args, optionIndex := 1, optionOffset := 0
      functionDepth := state.functionDepth + 1, loopDepth := 0 }
  let result ← Run.attempt (i.command { tested := setup.tested } body)
  modify fun state =>
    { state with
      parameters := before.parameters
      optionIndex := before.optionIndex, optionOffset := before.optionOffset
      functionDepth := before.functionDepth, loopDepth := before.loopDepth }
  match result with
  | .error .returned => Run.know (·.status)
  | result => Run.resume result

structure Picked where
  args : List String := []
  rest : List (List Part)
  meaning : Option Meaning := none
  /-- Whether the first builtin is special; none if there was no builtin. -/
  special : Option Bool := none
  usual : Bool := false
  functions : Bool := true

def fill (i : Interpreter) (picked : Picked) : List (List Part) → Run Picked
  | [] => pure { picked with rest := [] }
  | word :: rest => do
    match ← i.expander.fields word with
    | [] => fill i picked rest
    | fields => return { picked with args := picked.args ++ fields, rest }

def fillAll (i : Interpreter) (picked : Picked) : Run Picked := do
  let args ← picked.rest.mapM i.expander.fields
  return { picked with args := picked.args ++ args.flatten, rest := [] }

/-- The options of `command` that ask for a command to be run; the arguments after them, and whether
the usual directories are searched. None if something else is asked for. -/
def commandOptions (usual : Bool) : List String → Option (Bool × List String)
  | [] => none
  | word :: rest =>
    match word.toList with
    | ['-', '-'] => if rest = [] then none else some (usual, rest)
    | '-' :: c :: cs => if (c :: cs).all (· == 'p') then commandOptions true rest else none
    | _ => some (usual, word :: rest)

/-- Finds out what the first word of a simple command means; `command` in front of it is looked
through, at most `fuel` times. -/
def pick (i : Interpreter) (fuel : Nat) (picked : Picked) : Run Picked := do
  match fuel with
  | 0 => return picked
  | fuel + 1 =>
    let picked ← if picked.args = [] then i.fill picked picked.rest else pure picked
    match picked.args with
    | [] => return picked
    | name :: _ =>
      let meaning ← Run.meaning picked.functions name
      let picked := { picked with meaning := some meaning }
      match meaning with
      | .builtin =>
        let picked :=
          { picked with
            special := picked.special.or (some (Reader.specialBuiltins.contains name)) }
        if name ≠ "command" then return picked
        else
          let more ← i.fillAll picked
          match commandOptions false more.args.tail with
          | some (usual, args) =>
            pick i fuel
              { more with args, usual := picked.usual || usual, functions := false }
          | none => return more
      | _ => return picked

/-- Expands the words that are left; those of some builtins may be assignments. -/
def expandRest (i : Interpreter) (picked : Picked) : Run (List String) := do
  let assigning := match picked.meaning with
    | some .builtin => assigningBuiltins.contains (picked.args.headD "")
    | _ => false
  let rest ← picked.rest.mapM fun word => do
    match if assigning then assignment? word else none with
    | some (name, value) => return [name ++ "=" ++ (← i.expander.assigned value)]
    | none => i.expander.fields word
  return picked.args ++ rest.flatten

def runFound (i : Interpreter) (setup : Setup) (picked : Picked) (argv : List String) :
    Run Nat := do
  match picked.meaning, argv with
  | some (.function body), _ :: args => i.runFunction setup body args
  | some .builtin, name :: args =>
    i.runBuiltin setup (picked.special.getD false) name args
  | some .program, name :: _ =>
    match ← if picked.usual then Run.locate true name else Run.track name with
    | .ok path => i.runProgram setup path argv
    | .error error =>
      Run.warn (name ++ ": " ++ (Run.runFailure error).1)
      return 127
  | _, _ => Run.know (·.outputStatus)

def runSimple (i : Interpreter) (setup : Setup) (line : Nat)
    (assignments : List (String × List Part)) (words : List (List Part))
    (redirections : List Redirection) : Run Nat := do
  modify fun state => { state with line, outputStatus := 0 }
  let picked ← i.pick limit { rest := words }
  let argv ← i.expandRest picked
  let special := picked.special == some true
  let isExec := special && argv.head? == some "exec"
  let isLocal := !special && picked.meaning.isSome
  let before ← Task.look (·.context.descriptors)
  if isLocal then Run.pushFrame
  let result ← Run.attempt do
    let prepared ← Run.prepare i.expander redirections
    let numbers := prepared.map Prepared.number
    match ← Run.attempt (Run.performAll prepared) with
    | .error _ =>
      Run.restore before numbers
      if special then throw .failure
      return 2
    | .ok () =>
      let result ← Run.attempt do
        let values ← assignments.mapM fun (name, parts) => do
          let value ← i.expander.assigned parts
          if isLocal then Run.makeLocal name
          if isLocal || (isExec && argv.length > 1) then Run.assignExported name value
          else Run.assign name value
          return name ++ "=" ++ value
        i.trace (before.lookup 2) (values ++ argv)
        i.runFound setup picked argv
      if !isExec then Run.restore before numbers
      Run.resume result
  if isLocal then Run.popFrame
  Run.resume result

/-- Runs a command with other open files. Redirections that go wrong are a status. -/
def runRedirected (i : Interpreter) (setup : Setup) (line : Nat) (body : Command)
    (redirections : List Redirection) : Run Nat := do
  modify fun state => { state with line }
  let prepared ← Run.prepare i.expander redirections
  Run.redirected prepared do
    match ← Run.attempt (Run.performAll prepared) with
    | .error _ => return 2
    | .ok () => i.command { tested := setup.tested } body

/-- What a process in the background arranges: interrupts are ignored, and unless it is in the
middle of a pipeline it reads nothing. -/
def detach (first : Bool) : Run Unit := do
  Task.modifyContext fun context =>
    let signals := [Signal.interrupt, .quit]
    { context with
      ignored := signals ++ context.ignored.filter fun s => !signals.contains s
      caught := context.caught.filter fun s => !signals.contains s }
  if first then
    if let .ok handle ← Task.openForReading "/dev/null" then Run.place 0 handle

def runSubshell (i : Interpreter) (setup : Setup) (line : Nat) (body : Command)
    (redirections : List Redirection) (background : Bool) : Run Nat := do
  modify fun state => { state with line }
  let prepared ← Run.prepare i.expander redirections
  let trapped := (← Run.know (·.traps)).any (·.2 != "")
  if !background && setup.last && !trapped then
    Run.performAll prepared
    i.command setup body
  else
    let pid ← i.spawn
      (do
        if background then detach true
        Run.performAll prepared) { setup with tested := setup.tested && !background } body
    if background then
      Run.addJob [pid]
      return 0
    else Run.waitForeground [pid]

/-- Starts the commands of a pipeline; `first` says whether the next one is the first. -/
def startPipeline (i : Interpreter) (setup : Setup) (background first : Bool) :
    List Command → Run (List Pid)
  | [] => pure []
  | command :: rest => do
    let ends ← if rest.isEmpty then pure none else some <$> (Run.makePipe : Run _)
    if let some (source, sink) := ends then
      Run.place (hidden 1) source
      Run.place (hidden 2) sink
    let pid ← i.spawn
      (do
        if background then detach first
        Task.modifyContext fun context =>
          let context := match context.handle? (hidden 0) with
            | some source => if first then context else context.setHandle 0 source
            | none => context
          let context := match ends with
            | some (_, sink) => context.setHandle 1 sink
            | none => context
          { context with
            descriptors := context.descriptors.filter fun entry => entry.1 < hidden 0 })
      { tested := setup.tested } command
    Task.modifyContext fun context =>
      let others := ((context.close (hidden 0)).close (hidden 1)).close (hidden 2)
      match ends with
      | some (source, _) => others.setHandle (hidden 0) source
      | none => others
    return pid :: (← startPipeline i setup background false rest)

def runPipeline (i : Interpreter) (setup : Setup) (commands : List Command) (background : Bool) :
    Run Nat := do
  let pids ← i.startPipeline setup background true commands
  if background then
    Run.addJob pids
    return 0
  else Run.waitForeground pids

inductive Turn where
  | goOn
  | stop
  deriving DecidableEq, Repr

/-- Takes in how a turn of a loop left off: what concerns this loop is done with, the rest goes on to
the loops around it. -/
def endTurn {α : Type} (result : Except Jump α) : Run Turn := do
  match result with
  | .ok _ => return .goOn
  | .error (.leave loops) => if loops ≤ 1 then return .stop else throw (.leave (loops - 1))
  | .error (.next loops) => if loops ≤ 1 then return .goOn else throw (.next (loops - 1))
  | .error jump => throw jump

def inLoop {α : Type} (body : Run α) : Run α := do
  modify fun state => { state with loopDepth := state.loopDepth + 1 }
  let result ← Run.attempt body
  modify fun state => { state with loopDepth := state.loopDepth - 1 }
  Run.resume result

def runLoop (i : Interpreter) (setup : Setup) (wanted : Bool) (condition body : Command)
    (fuel status : Nat) : Run Nat := do
  match fuel with
  | 0 => return status
  | fuel + 1 =>
    let tried ← Run.attempt (i.command { tested := true } condition)
    match ← endTurn tried with
    | .stop => return status
    | .goOn =>
      match tried with
      | .error _ => runLoop i setup wanted condition body fuel status
      | .ok result =>
        if (result == 0) ≠ wanted then return status
        else
          let done ← Run.attempt (i.command { tested := setup.tested } body)
          let status := match done with
            | .ok status => status
            | .error _ => 0
          match ← endTurn done with
          | .stop => return status
          | .goOn => runLoop i setup wanted condition body fuel status

def runForEach (i : Interpreter) (setup : Setup) (name : String) (body : Command) (status : Nat) :
    List String → Run Nat
  | [] => pure status
  | text :: rest => do
    Run.assign name text
    let done ← Run.attempt (i.command { tested := setup.tested } body)
    let status := match done with
      | .ok status => status
      | .error _ => 0
    match ← endTurn done with
    | .stop => return status
    | .goOn => runForEach i setup name body status rest

def matchesAny (i : Interpreter) (text : List Char) : List (List Part) → Run Bool
  | [] => pure false
  | pattern :: rest => do
    if (← i.expander.pattern pattern).accepts text then return true
    else matchesAny i text rest

def runSelect (i : Interpreter) (setup : Setup) (text : List Char) :
    List (List (List Part) × Command) → Run Nat
  | [] => pure 0
  | (patterns, body) :: rest => do
    if ← i.matchesAny text patterns then
      match body with
      | .nothing => return 0
      | _ => i.command setup body
    else runSelect i setup text rest

def runCommand (i : Interpreter) (setup : Setup) : Command → Run (Nat × Bool)
  | .nothing => return (0, false)
  | .simple line assignments words redirections => do
    return (← i.runSimple setup line assignments words redirections, true)
  | .redirected line body redirections => do
    return (← i.runRedirected setup line body redirections, false)
  | .subshell line body redirections => do
    return (← i.runSubshell setup line body redirections false, true)
  | .background line body redirections => do
    return (← i.runSubshell setup line body redirections true, true)
  | .pipeline commands background => do
    return (← i.runPipeline setup commands background, true)
  | .negated body => do
    return (if (← i.command { tested := true } body) = 0 then 1 else 0, false)
  | .both first second => do
    let status ← i.command { tested := true } first
    if status = 0 then return (← i.command setup second, false) else return (status, false)
  | .either first second => do
    let status ← i.command { tested := true } first
    if status = 0 then return (0, false) else return (← i.command setup second, false)
  | .sequence first second => do
    let _ ← i.command { tested := setup.tested } first
    return (← i.command setup second, false)
  | .choice condition yes no => do
    if (← i.command { tested := true } condition) = 0 then return (← i.command setup yes, false)
    else
      match no with
      | .nothing => return (0, false)
      | _ => return (← i.command setup no, false)
  | .loop wanted condition body => do
    return (← inLoop (i.runLoop setup wanted condition body limit 0), false)
  | .forEach line name words body => do
    modify fun state => { state with line }
    let texts ← i.expander.allFields words
    return (← inLoop (i.runForEach setup name body 0 texts), false)
  | .select line word cases => do
    modify fun state => { state with line }
    let text ← i.expander.text word
    return (← i.runSelect setup text.toList cases, false)
  | .function _ name body => do
    modify fun state =>
      { state with functions := (name, ⟨body⟩) :: state.functions.filter (·.1 != name) }
    return (0, false)

def evaluate (i : Interpreter) (setup : Setup) (command : Command) : Run Nat := do
  i.checkSignals
  if ← Run.isOn .noexec then return 0
  let (status, counts) ← i.runCommand setup command
  match command with
  | .nothing => pure ()
  | _ => Run.setStatus status
  i.checkSignals
  if counts && !setup.tested && status != 0 && (← Run.isOn .errexit) then throw .exit
  if setup.last then throw .exit
  return status

end Interpreter

/-- The interpreter of commands that are nested at most `depth` deep. A script whose commands are
nested deeper dies. -/
def interpreter (program : Image → List String → Variables → Task UInt8) : Nat → Interpreter
  | 0 => { command := fun _ _ => Run.dieBy .segmentationFault, program }
  | depth + 1 =>
    { command := fun setup command => (interpreter program depth).evaluate setup command
      program }

end JobShell.Script
