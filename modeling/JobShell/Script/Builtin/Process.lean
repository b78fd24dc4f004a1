import JobShell.Files.Mode
import JobShell.Script.Builtin.Variables
import JobShell.Script.Process

/-!
Builtins for processes and signals, and those that leave off.
-/

namespace JobShell.Script.Builtin

def lastSignal : Nat := 64

def signalName (number : Nat) : String :=
  if number = 0 then "EXIT"
  else if number ≠ 16 ∧ number ≤ Signal.lastNamed then (Signal.names[number - 1]?).getD ""
  else if number = 34 then "RTMIN"
  else if 34 < number ∧ number < 50 then "RTMIN+" ++ toString (number - 34)
  else if number = 64 then "RTMAX"
  else if 50 ≤ number ∧ number < 64 then "RTMAX-" ++ toString (64 - number)
  else toString number

def signalNumber? (first : Nat) (text : String) : Option Nat :=
  let chars := text.toList
  if chars ≠ [] ∧ chars.all Char.isDigit then
    let number := Number.ofDigits 10 chars
    if number ≤ lastSignal then some number else none
  else
    (List.range (lastSignal + 1)).find? fun number =>
      first ≤ number && (signalName number).toUpper == text.toUpper

def arrange (number : Nat) (action : Option String) : Run Unit := do
  match Signal.ofNumber? number with
  | none => return
  | some signal =>
    let state ← get
    if !state.deaf.contains signal then
      let ignores := action = some ""
      let catches := (action.isSome && !ignores) ||
        (action.isNone && signal == .interrupt && state.patient)
      Task.modifyContext fun context =>
        let others (signals : List Signal) : List Signal := signals.filter (· != signal)
        { context with
          ignored := if ignores then signal :: others context.ignored else others context.ignored
          caught := if catches then signal :: others context.caught else others context.caught }

/-- Sets the same action for signals; stops at what is none. -/
def trapAll (action : Option String) : List String → Run Nat
  | [] => pure 0
  | name :: rest => do
    match signalNumber? 0 name with
    | none =>
      Task.complain ("trap: " ++ name ++ ": bad trap\n")
      return 1
    | some number =>
      modify fun state =>
        let others := state.traps.filter (·.1 != number)
        { state with
          traps := match action with
            | some text => (number, text) :: others
            | none => others }
      arrange number action
      trapAll action rest

def trap : Body := fun args => do
  match ← operands args with
  | [] =>
    let traps ← Run.know (·.traps)
    (traps.mergeSort fun a b => a.1 ≤ b.1).forM fun (number, text) =>
      Run.print ("trap -- " ++ quote text ++ " " ++ signalName number ++ "\n")
    return 0
  | [name] => trapAll none [name]
  | first :: rest =>
    if (signalNumber? 0 first).isSome then trapAll none (first :: rest)
    else trapAll (if first = "-" then none else some first) rest

def killUsage : String :=
  "Usage: kill [-s sigspec | -signum | -sigspec] [pid | job]... or\nkill -l [exitstatus]"

def jobNamed (text : String) : Run Job := do
  let jobs ← Run.know (·.jobs)
  let found := match text.toList.drop 1 with
    | [] | ['%'] | ['+'] => jobs.head?
    | ['-'] => jobs[1]?
    | digits =>
      if digits.all Char.isDigit then
        jobs.find? fun job => job.number == Number.ofDigits 10 digits
      else none
  match found with
  | some job => return job
  | none => Run.fail ("No such job: " ++ text)

def processNamed (text : String) : Run Pid := do
  match text.toList with
  | '%' :: _ => return (-(((← jobNamed text).pids.head?).getD 0) : Int)
  | '-' :: digits => return -(Int.ofNat (← Run.number (String.ofList digits)))
  | _ => return Int.ofNat (← Run.number text)

def sendNumber (number : Nat) (pid : Pid) : Task Bool := do
  match Signal.ofNumber? number with
  | some signal => Task.send pid signal
  | none => Task.look fun view => pid == view.self || view.present.contains pid

def kill : Body := fun args => do
  let named := match args with
    | first :: _ =>
      match first.toList with
      | '-' :: name => signalNumber? 1 (String.ofList name)
      | _ => none
    | [] => none
  let (list, number, targets) ← match named with
    | some number => pure (false, some number, args.tail)
    | none => do
      let (given, rest) ← options ['l'] ['s'] (args.length + 1) args
      let number ← match (given.filter (·.1 == 's')).getLast? with
        | some (_, name) =>
          match signalNumber? 1 name with
          | some number => pure (some number)
          | none => Run.fail ("invalid signal number or name: " ++ name)
        | none => pure none
      pure (given.any (·.1 == 'l'), number, rest)
  if list then
    if number.isSome then Run.fail killUsage
    match targets with
    | [] =>
      Run.print "0\n"
      (List.range lastSignal).forM fun n => Run.print (signalName (n + 1) ++ "\n")
      return 0
    | first :: _ =>
      let given ← Run.number first
      let number := if given > 128 then given - 128 else given
      if 0 < number ∧ number ≤ lastSignal then
        Run.print (signalName number ++ "\n")
        return 0
      else Run.fail ("invalid signal number or exit status: " ++ first)
  else if targets = [] then Run.fail killUsage
  else
    let codes ← targets.mapM fun target => do
      if ← sendNumber (number.getD 15) (← processNamed target) then return 0
      else
        Run.warn "No such process\n"
        return 1
    return codes.foldl max 0

/-- The children that have ended and were let go of when all of some have, or the number of a
signal that has come before. -/
def collectOrSignal (pids : List Pid) : Task (Except Nat (List (Pid × Ending))) :=
  Task.request fun view =>
    let ended := view.children.filterMap fun (pid, ending) => ending.map fun e => (pid, e)
    let running := view.children.filter (·.2.isNone)
    if !(pids.any fun pid => running.any (·.1 == pid)) then
      some (.ok ended, { view with children := running })
    else
      match view.context.pending.getLast? with
      | some signal => some (.error signal.number, view)
      | none => none

/-- Waits for all children of jobs; the number of a signal if one comes first. -/
def waitJobs (jobs : List Job) (loud : Bool) : Run (Option Nat) := do
  let known ← Run.know (·.endings)
  let pids := jobs.flatMap (·.pids)
  let missing := pids.filter fun pid => !(known.any (·.1 == pid))
  let waited ← if missing = [] then pure (.ok []) else collectOrSignal missing
  match waited with
  | .error number => return some number
  | .ok ended =>
    Run.note ended
    if loud then
      (ended.filter fun entry => missing.contains entry.1).forM fun entry => Run.announce entry.2
    modify fun state =>
      { state with
        jobs := state.jobs.map fun job =>
          if jobs.any (·.number == job.number) then { job with awaited := true } else job }
    return none

/-- Waits for the processes or jobs that arguments name; the status of the last. -/
def waitEach (status : Nat) : List String → Run Nat
  | [] => pure status
  | arg :: rest => do
    let job? ← match arg.toList with
      | '%' :: _ => pure (some (← jobNamed arg))
      | _ => do
        let pid : Pid := Int.ofNat (← Run.number arg)
        pure ((← Run.know (·.jobs)).find? fun job => job.pids.getLast? == some pid)
    match job? with
    | none => waitEach 127 rest
    | some job =>
      match ← waitJobs [job] true with
      | some number => return 128 + number
      | none =>
        let status ← match job.pids.getLast? with
          | some pid => statusOf <$> Run.endingOf pid
          | none => pure 0
        waitEach status rest

def wait : Body := fun args => do
  match ← operands args with
  | [] =>
    match ← waitJobs (← Run.know (·.jobs)) false with
    | some number => return 128 + number
    | none => return 0
  | names => waitEach 0 names

def jobState (job : Job) (endings : List (Pid × Ending)) : String :=
  match job.pids.mapM fun pid => endings.lookup pid with
  | none => "Running"
  | some endings =>
    match endings.getLast? with
    | some (.exited 0) | none => "Done"
    | some (.exited code) => "Done(" ++ toString code.toNat ++ ")"
    | some (.killed signal) => deathNotice signal

def isDone (job : Job) (endings : List (Pid × Ending)) : Bool :=
  (job.pids.mapM fun pid => endings.lookup pid).isSome

def printJobs (first : Nat) : List Job → Run Unit
  | [] => pure ()
  | job :: rest => do
    let endings ← Run.know (·.endings)
    let sign := if first = 0 then "+ " else if first = 1 then "- " else "  "
    let line := "[" ++ toString job.number ++ "] " ++ sign ++ jobState job endings
    Run.print (line ++ String.ofList (List.replicate (33 - line.length) ' ') ++ "\n")
    printJobs (if isDone job endings then first else first + 1) rest

/-- Prints the jobs, or only the ids of their first processes; those that are done are then
forgotten. -/
def jobs : Body := fun args => do
  let (given, _) ← options ['l', 'p'] [] (args.length + 1) args
  let ended ← Run.collect []
  Run.note ended
  let known ← Run.know (·.jobs)
  if given.getLast?.any (·.1 == 'p') then
    known.forM fun job => Run.print (toString (job.pids.headD 0) ++ "\n")
  else printJobs 0 known
  modify fun state =>
    { state with jobs := state.jobs.filter fun job => !isDone job state.endings }
  return 0

def moveJob : Body := fun args => do
  match ← operands args with
  | [] =>
    match (← Run.know (·.jobs)).head? with
    | none => Run.fail "No current job"
    | some job => Run.fail ("job " ++ toString job.number ++ " not created under job control")
  | name :: _ =>
    let _ ← jobNamed (if name.startsWith "%" then name else "%" ++ name)
    Run.fail ("job " ++ name ++ " not created under job control")

def permissionLetters (bits : Nat) : String :=
  (if bits &&& 4 != 0 then "r" else "") ++ (if bits &&& 2 != 0 then "w" else "") ++
    (if bits &&& 1 != 0 then "x" else "")

def octal (n : Nat) : String :=
  let digits := Nat.toDigits 8 n
  String.ofList (List.replicate (4 - digits.length) '0' ++ digits)

def umask : Body := fun args => do
  let (given, names) ← options ['S'] [] (args.length + 1) args
  let mask ← Task.look (·.context.umask)
  let grants := FileMode.without FileMode.everyone mask
  let put (mask : Nat) : Run Nat := do
    Task.modifyContext fun context => { context with umask := mask &&& FileMode.everyone }
    return 0
  match names with
  | [] =>
    if given ≠ [] then
      Run.print ("u=" ++ permissionLetters (grants / 64) ++ ",g=" ++
        permissionLetters (grants / 8) ++ ",o=" ++ permissionLetters grants ++ "\n")
    else Run.print (octal mask ++ "\n")
    return 0
  | text :: _ =>
    let chars := text.toList
    if chars.head?.any Char.isDigit then
      if chars.all (Number.isDigit 8) then put (Number.ofDigits 8 chars)
      else Run.fail ("Illegal number: " ++ text)
    else
      match FileMode.readClauses (chars.length + 1) chars with
      | some changes =>
        let (mode, _) := changes.foldl (FileMode.Change.apply 0) (grants, 0)
        put (FileMode.without FileMode.everyone mode)
      | none => Run.fail ("Illegal mode: " ++ text)

def times : Body := fun _ => do
  Run.print "0m0.000000s 0m0.000000s\n0m0.000000s 0m0.000000s\n"
  return 0

def ulimit : Body := fun args => do
  let _ ← options "HSatfdscmlpnvwr".toList [] (args.length + 1) args
  Run.print "unlimited\n"
  return 0

def exit : Body := fun args => do
  match args with
  | [] =>
    if let some status ← Run.know (·.trapStatus) then Run.setStatus status
  | arg :: _ =>
    let status ← Run.number arg
    Run.setStatus status
    modify fun state => { state with trapStatus := state.trapStatus.map fun _ => status }
  throw .exit

def leaveFunction : Body := fun args => do
  if let arg :: _ := args then Run.setStatus (← Run.number arg)
  throw .returned

def leaveLoops (jump : Nat → Jump) : Body := fun args => do
  let count ← match args with
    | [] => pure 1
    | arg :: _ => do
      let count ← Run.number arg
      if count = 0 then Run.fail ("Illegal number: " ++ arg)
      pure count
  let depth ← Run.know (·.loopDepth)
  if depth = 0 then return 0
  else
    Run.setStatus 0
    throw (jump (min count depth))

end JobShell.Script.Builtin
