import JobShell.Program.Search
import JobShell.Redirection
import JobShell.Session.Builtin

/-!
Running one command. A built-in command runs in the shell. For any other a child is started: it
redirects its streams, takes its signal dispositions and becomes the program. The shell waits for
a foreground child, with SIGTSTP held back, and puts a background child on record.
-/

namespace JobShell

/-- How a child sets out: what it did to get its streams and its program, how it goes on, and how
its program was launched if it got that far. -/
structure Departure where
  store : Store
  behaviour : Behaviour
  launch : Option Launch

namespace Departure

def failed (store : Store) (output : Handle) (message : String) : Departure :=
  { store := store.writeText output message, behaviour := .atOnce (.exited 1), launch := none }

/-- What a child does about a signal before it takes the dispositions of its program: what the shell
does, but that the shell's handler has no effect in it. -/
def reaction (signals : SignalState) (signal : Signal) : Reaction :=
  if signal = .interrupt ∧ signals.interrupt ≠ .default ∨
      signal = .terminalStop ∧ signals.stop ≠ .default ∨ signal = .brokenPipe then .ignored
  else .default

/-- A child that waits for somebody to open the other end of a pipe. That nobody comes is taken for
granted. -/
def waiting (m : Machine) (reached : Redirected) : Departure :=
  { store := reached.store
    behaviour := .waiting (reaction m.signals) reached.streams.held
    launch := none }

/-- The way of a child: first its streams, then its program. When a stream cannot be redirected
the child says so on the standard output of the shell; when there is no program, on its own. -/
def make (programs : Programs) (s : Session) (command : Command) (background : Bool) :
    Departure :=
  let m := s.machine
  let redirections := Redirections.ofCommand command background
  match redirections.stuck? m.held m.cwd m.streams m.store with
  | some reached => waiting m reached
  | none =>
    let redirected := redirections.apply m.cwd m.streams m.store
    match redirected.failed with
    | some direction =>
      failed redirected.store m.streams.output (redirections.diagnostic direction)
    | none =>
      let exported := s.shell.env.inherited
      let held := redirected.streams.held ++ m.held
      match Image.find redirected.store held redirected.streams.handle? m.cwd exported
          command.argv with
      | .error _ =>
        failed redirected.store redirected.streams.output
          ((CommandError.notFound command.name).message ++ "\n")
      | .ok image =>
        let launch : Launch :=
          { image, argv := command.argv, pid := m.children.next, parent := m.pid.toNat
            cwd := m.cwd, exported, streams := redirected.streams
            policy := .forChild background, stopBlocked := m.signals.blocked }
        { store := redirected.store, behaviour := programs launch, launch }

end Departure

namespace Session

def fork : Action Unit := do
  let s ← get
  set { s with forks := s.forks + 1 }
  match s.refusal s.forks with
  | some fault => throw (.spawn fault)
  | none => pure ()

/-- Starts a child. One in the background does at once what it can do without waiting. -/
def startChild (programs : Programs) (command : Command) (background : Bool) : Action Pid := do
  let s ← get
  let departure := Departure.make programs s command background
  let (pid, children) := s.machine.children.start (.forChild background) departure.behaviour
  modifyMachine fun m => { m with store := departure.store, children }
  note (.created pid command.text)
  match departure.launch with
  | some launch => note (.launched launch)
  | none => pure ()
  if background then modifyMachine (·.advance 1)
  return pid

/-- Waits for a foreground child. The signals that reach the shell meanwhile are held back until
its end. -/
def waitForeground (pid : Pid) : Action Status := do
  modifyMachine fun m => { m with signals := m.signals.block }
  let s ← get
  let (answer, machine) := s.machine.await pid
  modifyMachine fun _ => { machine with signals := machine.signals.unblock }
  match answer with
  | .ok ending => return ending.status.collapsed
  | .error fault => throw (.wait pid fault)

def startedLine (pid : Pid) : String :=
  "background pid is " ++ toString pid

def recordBackground (pid : Pid) (text : String) : Action Status := do
  modifyShell fun shell => { shell with jobs := shell.jobs.insert pid text }
  writeLine (startedLine pid)
  flush
  let s ← get
  return s.shell.status

/-- Whether a word cannot be handed to a program because it contains the character NUL. -/
def hasNul (argv : List String) : Bool :=
  argv.any (·.toList.contains '\x00')

/-- Starts a child for a command, and waits for it unless it runs in the background. Everything
written before is flushed first, so that the child does not write it again. -/
def runChild (programs : Programs) (command : Command) (background : Bool) : Action Status := do
  flush
  fork
  let pid ← startChild programs command background
  if background then recordBackground pid command.text
  else waitForeground pid

def runExternal (programs : Programs) (command : Command) : Action Status := do
  let s ← get
  if hasNul command.argv then throw (.nulInArgument command.name)
  else runChild programs command (command.background && s.shell.mode.allowsBackground)

/-- Runs a command and tells the status that the shell should remember. Nothing is done for a
command without words. -/
def execute (programs : Programs) (command : Command) : Action Status := do
  let s ← get
  if command.argv = [] then return s.shell.status
  else
    match Builtin.ofName? command.name with
    | some builtin => builtin.run command.args
    | none => runExternal programs command

end Session

end JobShell
