import JobShell.Behaviour
import JobShell.Error
import JobShell.Signal.State

/-!
The children of the shell as the system holds them. A child runs until it ends or a signal ends it,
and is held until somebody waits for it. `poll` asks about a child without waiting, `collect` takes
the answer to a wait for a child that has ended; both let go of it. For a child killed by a signal
without a name the wait fails, but the child is gone all the same.
-/

namespace JobShell

inductive ChildState where
  /-- Goes by a behaviour since a point of time. -/
  | running (since : Nat) (behaviour : Behaviour)
  /-- Is stopped; `held` are the signals that reach it when it goes on. -/
  | stopped (since : Nat) (behaviour : Behaviour) (held : List Signal)
  /-- Has ended, and nobody has waited for it. -/
  | ended (ending : Ending)
  /-- Has ended and has been waited for. -/
  | gone (ending : Ending)

namespace ChildState

def isEnded : ChildState → Bool
  | ended _ => true
  | _ => false

/-- Whether the child is held: it runs, is stopped or has ended unseen. -/
def isHeld : ChildState → Bool
  | gone _ => false
  | _ => true

def ending? : ChildState → Option Ending
  | ended ending | gone ending => some ending
  | _ => none

end ChildState

structure Child where
  pid : Pid
  /-- The dispositions it was started with. -/
  policy : SignalPolicy
  /-- The process group it belongs to. -/
  group : Pid
  state : ChildState
  /-- What the processes that it left behind do, since a point of time. -/
  rest : Nat × Activity := (0, .quiet)

namespace Child

def goOn (child : Child) (now : Nat) : Behaviour → Child
  | .ended ending rest => { child with state := .ended ending, rest := (now, rest) }
  | behaviour => { child with state := .running now behaviour }

/-- When the child or what it left behind does something next. Every deed takes one unit of
time. -/
def due? (child : Child) : Option Nat :=
  match child.state with
  | .running since (.later delay ..) => some (since + delay + 1)
  | .running .. | .stopped .. => none
  | .ended _ | .gone _ =>
    match child.rest with
    | (since, .later delay ..) => some (since + delay + 1)
    | (_, .quiet) => none

/-- The open files that the child or what it left behind has. -/
def holds (child : Child) : List Handle :=
  match child.state with
  | .running _ behaviour | .stopped _ behaviour _ => behaviour.holds
  | .ended _ | .gone _ => child.rest.2.holds

def kill (child : Child) (now : Nat) (signal : Signal) : Child :=
  match child.state with
  | .running since (.later _ _ _ _ _ rest _) | .stopped since (.later _ _ _ _ _ rest _) _ =>
    { child with state := .ended (.killed signal), rest := (now, rest (now - since)) }
  | .running .. | .stopped .. => { child with state := .ended (.killed signal) }
  | _ => child

/-- What a running child does about a signal. Signal KILL cannot be caught or ignored. -/
def reaction (child : Child) (signal : Signal) : Reaction :=
  if signal = .kill then .default
  else
    match child.state with
    | .running _ (.later _ _ _ reaction ..) | .stopped _ (.later _ _ _ reaction ..) _ =>
      reaction signal
    | _ => .default

def take (child : Child) (now : Nat) (signal : Signal) : Child :=
  match child.state with
  | .running since behaviour =>
    match child.reaction signal, behaviour with
    | .ignored, _ => child
    | .caught, .later _ _ _ _ caught .. => child.goOn now (caught signal (now - since))
    | _, _ =>
      match signal.action with
      | .ignore | .resume => child
      | .stop => { child with state := .stopped since behaviour [] }
      | .terminate => child.kill now signal
  | _ => child

/-- Adds a signal to those that are held, which are in the order of their numbers. -/
def hold (signal : Signal) : List Signal → List Signal
  | [] => [signal]
  | first :: rest =>
    if signal.number < first.number then signal :: first :: rest
    else if signal = first then first :: rest
    else first :: hold signal rest

/-- A signal is sent to the child. One that is stopped takes notice of most signals only when it
goes on; one that has ended takes no notice. -/
def receive (child : Child) (now : Nat) (signal : Signal) : Child :=
  match child.state with
  | .stopped since behaviour held =>
    if signal = .kill then child.kill now signal
    else if signal = .resume then
      held.foldl (fun child signal => child.take now signal)
        ({ child with state := .running since behaviour }.take now signal)
    else if child.reaction signal = .ignored ∨ signal.action = .stop then child
    else { child with state := .stopped since behaviour (hold signal held) }
  | _ => child.take now signal

end Child

/-- All children that were started, in order, with a clock. It is assumed that a process id is not
given twice, even after its process is gone; a real system only has them differ between processes that
are there at the same time. -/
structure Children where
  now : Nat := 0
  /-- The id that the next child gets. -/
  next : Pid := 2
  /-- The process group of the shell. -/
  group : Pid := 1
  all : List Child := []
  deriving Inhabited

/-- The answer to a wait for a child that has ended: a signal without a name makes it fail. -/
def endAnswer : Ending → Except Fault Ending
  | .exited code => .ok (.exited code)
  | .killed signal => if signal.isNamed then .ok (.killed signal) else .error .invalidArgument

namespace Children

def find? (c : Children) (pid : Pid) : Option Child :=
  c.all.find? (·.pid == pid)

def state? (c : Children) (pid : Pid) : Option ChildState :=
  (c.find? pid).map Child.state

def start (c : Children) (policy : SignalPolicy) (behaviour : Behaviour) : Pid × Children :=
  let child : Child := { pid := c.next, policy, group := c.group, state := .running c.now behaviour }
  (c.next, { c with next := c.next + 1, all := c.all ++ [child.goOn c.now behaviour] })

def update (c : Children) (pid : Pid) (f : Child → Child) : Children :=
  { c with all := c.all.map fun child => if child.pid = pid then f child else child }

/-- Lets the clock go on to `now`, if it is not there yet. -/
def setClock (c : Children) (now : Nat) : Children :=
  { c with now := max c.now now }

def signal (c : Children) (pid : Pid) (signal : Signal) : Children :=
  c.update pid (·.receive c.now signal)

def release (c : Children) (pid : Pid) : Children :=
  c.update pid fun child =>
    match child.state with
    | .ended ending => { child with state := .gone ending }
    | _ => child

/-- Whether a wait for `pid` is a wait for this child. -1 stands for every child, 0 for the children
in the shell's own process group, any other negative number for those in the group with that number
without its sign. -/
def Meant (c : Children) (pid : Pid) (child : Child) : Prop :=
  child.pid = pid ∨ pid = -1 ∨ pid = 0 ∧ child.group = c.group ∨ pid < -1 ∧ child.group = -pid

instance (c : Children) (pid : Pid) (child : Child) : Decidable (c.Meant pid child) :=
  inferInstanceAs (Decidable (_ ∨ _))

theorem meant_of_pos {c : Children} {pid : Pid} (h : 0 < pid) (child : Child) :
    c.Meant pid child ↔ child.pid = pid := by
  refine ⟨?_, .inl⟩
  rintro (named | rfl | ⟨rfl, -⟩ | ⟨below, -⟩)
  · exact named
  · exact absurd h (by decide)
  · exact absurd h (by decide)
  · exact absurd (Int.lt_trans h below) (by decide)

/-- The least process id, for which the system knows no group. -/
def leastPid : Pid := -2147483648

def poll (c : Children) (pid : Pid) : Except Fault WaitResult × Children :=
  if pid = leastPid then (.error .noProcess, c)
  else
    match c.all.find? fun child => c.Meant pid child && child.state.isEnded with
    | some child =>
      match child.state with
      | .ended ending => ((endAnswer ending).map .ofEnding, c.release child.pid)
      | _ => (.ok .stillAlive, c)
    | none =>
      if c.all.any fun child => c.Meant pid child && child.state.isHeld then (.ok .stillAlive, c)
      else (.error .noChild, c)

/-- What letting go of a child keeps, asking about one keeps. -/
theorem poll_keeps {holds : Children → Prop} (keeps : ∀ c pid, holds c → holds (release c pid))
    {c : Children} (h : holds c) (pid : Pid) : holds (c.poll pid).2 := by
  unfold poll
  split
  · exact h
  · split
    · split
      · exact keeps c _ h
      · exact h
    · split <;> exact h

def collect (c : Children) (pid : Pid) : Except Fault Ending × Children :=
  match c.state? pid with
  | some (.ended ending) => (endAnswer ending, c.release pid)
  | _ => (.error .noChild, c)

end Children

end JobShell
