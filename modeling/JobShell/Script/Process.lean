import JobShell.Script.State

/-!
The processes that a script starts: children for commands of its own, waiting for them, and the
signals that come meanwhile.
-/

namespace JobShell.Script

def statusOf : Ending → Nat
  | .exited code => code.toNat
  | .killed signal => 128 + signal.number

def deathNotice (signal : Signal) : String :=
  let notices :=
    ["Hangup", "Interrupt", "Quit", "Illegal instruction", "Trace/breakpoint trap", "Aborted",
      "Bus error", "Floating point exception", "Killed", "User defined signal 1",
      "Segmentation fault", "User defined signal 2", "Broken pipe", "Alarm clock", "Terminated",
      "Stack fault", "Child exited", "Continued", "Stopped (signal)", "Stopped",
      "Stopped (tty input)", "Stopped (tty output)", "Urgent I/O condition",
      "CPU time limit exceeded", "File size limit exceeded", "Virtual timer expired",
      "Profiling timer expired", "Window changed", "I/O possible", "Power failure",
      "Bad system call"]
  match notices[signal.number - 1]? with
  | some notice => notice
  | none =>
    if signal.number < 34 then "Unknown signal " ++ toString signal.number
    else "Real-time signal " ++ toString (signal.number - 34)

namespace Run

/-- The children that have ended and were let go of when one of some has, or none has to be waited
for. -/
def collect (pids : List Pid) : Task (List (Pid × Ending)) :=
  Task.request fun view =>
    let ended := view.children.filterMap fun (pid, ending) => ending.map fun e => (pid, e)
    let running := view.children.filter (·.2.isNone)
    if pids.all fun pid => !(running.any (·.1 == pid)) then
      some (ended, { view with children := running })
    else if ended.any fun entry => pids.contains entry.1 then
      some (ended, { view with children := running })
    else none

def note (ended : List (Pid × Ending)) : Run Unit :=
  modify fun state => { state with endings := state.endings ++ ended }

def announce (ending : Ending) : Run Unit := do
  match ending with
  | .exited _ => return
  | .killed signal =>
    if signal ≠ .interrupt ∧ signal ≠ .brokenPipe then
      Task.complain (deathNotice signal ++ "\n")

/-- Waits until some children have all ended, in at most `fuel` turns. What killed them is said if
`loud` says so. -/
def waitAll (loud : Bool) (fuel : Nat) (pids : List Pid) : Run Unit := do
  match fuel with
  | 0 => return
  | fuel + 1 =>
    let known ← know (·.endings)
    let missing := pids.filter fun pid => !(known.any (·.1 == pid))
    if missing = [] then return
    let ended ← collect missing
    note ended
    if loud then
      (ended.filter fun entry => missing.contains entry.1).forM fun entry => announce entry.2
    if ended = [] then return
    waitAll loud fuel missing

def endingOf (pid : Pid) : Run Ending := do
  return ((← know (·.endings)).lookup pid).getD (.exited 127)

def forget (pids : List Pid) : Run Unit :=
  modify fun state => { state with endings := state.endings.filter fun e => !pids.contains e.1 }

/-- Waits for the children of a command in the foreground: the status of the last of them. -/
def waitForeground (pids : List Pid) : Run Nat := do
  waitAll true limit pids
  let status ← match pids.getLast? with
    | some pid => statusOf <$> endingOf pid
    | none => pure 0
  forget pids
  return status

/-- Makes room for the children of another command: the first job that was waited for goes. -/
def makeRoom : Run Unit :=
  modify fun state =>
    match state.jobs.find? (·.awaited) with
    | some job =>
      { state with
        jobs := state.jobs.filter (·.number != job.number)
        endings := state.endings.filter fun e => !job.pids.contains e.1 }
    | none => state

def addJob (pids : List Pid) : Run Unit :=
  modify fun state =>
    let taken := state.jobs.map (·.number)
    let number := ((List.range (taken.length + 1)).find? fun n => !taken.contains (n + 1)).getD 0 + 1
    { state with
      jobs := { number, pids } :: state.jobs
      background := pids.getLast? }

def takeSignals : Task (List Signal) :=
  Task.change fun view =>
    (view.context.pending, { view with context.pending := [] })

def dieBy {α : Type} (signal : Signal) : Run α := do
  Task.modifyContext fun context =>
    { context with caught := context.caught.filter (· != signal) }
  let self ← Task.look (·.self)
  let _ ← Task.send self signal
  Task.exit (UInt8.ofNat (128 + signal.number))

def State.forChild (state : State) : State :=
  { state with
    traps := state.traps.filter (·.2 == "")
    jobs := []
    endings := []
    output := []
    trapStatus := none
    subshell := true }

/-- Starts a process for a step of the script. In it no trap is set; what it leaves off with is
its end, which `ending` sees to. -/
def spawn (ending : Run Unit) (body : Run Unit) : Run Pid := do
  makeRoom
  let state ← get
  Task.fork do
    Task.modifyContext fun context =>
      { context with caught := context.caught.filter (· == .interrupt) }
    let both : Run Unit := do
      let _ ← attempt body
      ending
    let (_, final) ← both.run.run (State.forChild state)
    return UInt8.ofNat final.status

end Run

end JobShell.Script
