import JobShell.Children
import JobShell.Program

/-!
The process of the shell and the machine around it: files, children, signals, and the working
directory and streams that children inherit. Time goes on while the shell waits; whatever its
children do meanwhile happens in the order of time.
-/

namespace JobShell

structure Machine where
  /-- The process id of the shell. -/
  pid : UInt32
  store : Store
  children : Children
  signals : SignalState
  cwd : NodeId
  streams : Streams
  deriving Inhabited

namespace Machine

/-- The machine of a shell that was just started in a directory, with the given standard input and
the node behind standard error. -/
def boot (pid : UInt32) (files : FileSystem) (cwd : NodeId) (input : Bytes) (log : Node)
    (firstChild : Pid) (mode : Mode) : Machine :=
  let (streams, store) := Store.withStreams files input log
  { pid, store, cwd, streams
    children := { next := firstChild, group := pid.toNat }
    signals := .ofMode mode }

def output (m : Machine) : Bytes :=
  m.store.content m.streams.output

def scene (m : Machine) : Scene :=
  { store := m.store
    present := m.pid.toNat :: (m.children.all.filter (·.state.isHeld)).map (·.pid) }

/-- All open files that the shell and its children have. -/
def held (m : Machine) : List Handle :=
  m.streams.held ++ m.children.all.flatMap Child.holds

def deliver (m : Machine) (pid : Pid) (signal : Signal) : Machine :=
  if pid = m.pid.toNat then
    match TerminalSignal.ofSignal? signal with
    | some signal => { m with signals := m.signals.raise signal }
    | none => m
  else { m with children := m.children.signal pid signal }

/-- Does what a deed says, but for the signals to the process `apart`, which are handed back. -/
def perform (m : Machine) (apart : Option Pid) (deed : Deed) : Machine × List Signal :=
  deed.sent.foldl (fun (m, kept) (pid, signal) =>
    if apart = some pid then (m, kept ++ [signal]) else (m.deliver pid signal, kept))
    ({ m with store := deed.store }, [])

/-- The child, other than `apart`, that does something next, and when it does. -/
def nextDue? (m : Machine) (apart : Option Pid) : Option (Child × Nat) :=
  m.children.all.foldl (fun best child =>
    if apart = some child.pid then best
    else
      match child.due?, best with
      | some due, some (_, earliest) => if due < earliest then some (child, due) else best
      | some due, none => some (child, due)
      | none, _ => best) none

def act (m : Machine) (apart : Option Pid) (child : Child) : Machine × List Signal :=
  let scene := m.scene
  let now := m.children.now
  match child.state with
  | .running _ (.later _ deed next ..) =>
    let m := { m with children := m.children.update child.pid (·.goOn now (next scene)) }
    m.perform apart (deed scene)
  | .running .. | .stopped .. => (m, [])
  | .ended _ | .gone _ =>
    match child.rest with
    | (_, .later _ deed next _) =>
      let go (child : Child) : Child := { child with rest := (now, next scene) }
      { m with children := m.children.update child.pid go }.perform apart (deed scene)
    | (_, .quiet) => (m, [])

/-- Lets the clock go on to `limit` and does, in the order of time, what the children other than
`apart` do up to then; stops early when one of them sends a signal to `apart` that concerns it. At
most `fuel` things are done. -/
def runUntil (fuel limit : Nat) (apart : Option Pid) (concerns : Signal → Bool) (m : Machine) :
    Machine × Option Signal :=
  let finished : Machine × Option Signal :=
    ({ m with children := m.children.setClock limit }, none)
  match fuel with
  | 0 => finished
  | fuel + 1 =>
    match m.nextDue? apart with
    | none => finished
    | some (child, due) =>
      if limit < due then finished
      else
        let m := { m with children := m.children.setClock due }
        let (m, signals) := m.act apart child
        match signals.find? concerns with
        | some signal => (m, some signal)
        | none => runUntil fuel limit apart concerns m

/-- How many things can be done up to `limit`, if each takes each child a unit of time. -/
def fuelUntil (m : Machine) (limit : Nat) : Nat :=
  m.children.all.length * (limit - m.children.now)

def advanceTo (m : Machine) (limit : Nat) : Machine :=
  (m.runUntil (m.fuelUntil limit) limit none fun _ => false).1

def advance (m : Machine) (time : Nat) : Machine :=
  m.advanceTo (m.children.now + time)

/-- Lets time go by until a child that goes by a behaviour since some point of time has ended. -/
def follow (pid : Pid) (since : Nat) : Behaviour → Machine → Machine
  | .ended ending rest, m =>
    { m with
      children := m.children.update pid fun child =>
        { child with state := .ended ending, rest := (m.children.now, rest) } }
  | .later delay deed next reaction caught rest _, m =>
    let limit := since + delay + 1
    let concerns (signal : Signal) : Bool :=
      signal == .kill || reaction signal == .caught ||
        (reaction signal == .default && signal.action == .terminate)
    match m.runUntil (m.fuelUntil limit) limit (some pid) concerns with
    | (m, some signal) =>
      let now := m.children.now
      if signal ≠ .kill ∧ reaction signal = .caught then
        follow pid now (caught signal (now - since)) m
      else
        { m with
          children := m.children.update pid fun child =>
            { child with state := .ended (.killed signal), rest := (now, rest (now - since)) } }
    | (m, none) =>
      let scene := m.scene
      follow pid m.children.now (next scene) (m.perform (some pid) (deed scene)).1

def settle (m : Machine) (pid : Pid) : Machine :=
  match m.children.state? pid with
  | some (.running since behaviour) => follow pid since behaviour m
  | _ => m

def settleAll (m : Machine) : Machine :=
  (m.children.all.map (·.pid)).foldl settle m

/-- Waits for the end of a child and lets go of it. -/
def await (m : Machine) (pid : Pid) : Except Fault Ending × Machine :=
  let m := m.settle pid
  let (answer, children) := m.children.collect pid
  (answer, { m with children })

end Machine

end JobShell
