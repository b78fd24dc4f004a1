import JobShell.Program
import JobShell.Task.Basic

/-!
A child of the shell with all the processes that it has started: a family. Its members take turns;
when each of them waits or sleeps, time goes by. What the family does becomes a `Behaviour`.
-/

namespace JobShell.Task

inductive MemberState : Type 1 where
  | ready (proc : Proc)
  | sleeping (wake : Nat) (proc : Proc)
  /-- Has ended, and its parent has not waited for it. -/
  | ended (ending : Ending)

structure Member : Type 1 where
  pid : Pid
  parent : Pid
  context : Context
  state : MemberState
  /-- The signals that are held while the process is stopped, if it is. -/
  stopped : Option (List Signal) := none

def Member.isAlive (member : Member) : Bool :=
  match member.state with
  | .ended _ => false
  | _ => true

/-- A process with all that it has started. Its members are in the order in which they were
started. -/
structure Family : Type 1 where
  leader : Pid
  clock : Nat := 0
  /-- The id that the next member gets. -/
  next : Pid
  members : List Member

structure Surroundings where
  store : Store
  present : List Pid
  sent : List (Pid × Signal) := []

namespace Family

def find? (family : Family) (pid : Pid) : Option Member :=
  family.members.find? (·.pid == pid)

def update (family : Family) (pid : Pid) (f : Member → Member) : Family :=
  { family with members := family.members.map fun m => if m.pid = pid then f m else m }

def orphanage : Pid := 1

/-- A member ends. Nobody waits for its children any more, nor for itself if its parent is no
member. -/
def finish (family : Family) (pid : Pid) (ending : Ending) : Family :=
  let members := family.members.filterMap fun m =>
    if m.pid = pid then
      if m.parent = orphanage then none else some { m with state := .ended ending }
    else if m.parent = pid then
      if m.isAlive then some { m with parent := orphanage } else none
    else some m
  { family with members }

def affect (family : Family) (m : Member) (signal : Signal) : Family :=
  if signal = .kill then family.finish m.pid (.killed signal)
  else if signal = .stop then family.update m.pid fun m => { m with stopped := some [] }
  else
    match m.context.reaction signal with
    | .ignored => family
    | .caught =>
      family.update m.pid fun m =>
        if m.context.pending.contains signal then m
        else { m with context.pending := m.context.pending ++ [signal] }
    | .default =>
      match signal.action with
      | .ignore | .resume => family
      | .stop => family.update m.pid fun m => { m with stopped := some [] }
      | .terminate => family.finish m.pid (.killed signal)

/-- A signal is sent to a member. One that is stopped holds most signals until it goes on. -/
def receive (family : Family) (pid : Pid) (signal : Signal) : Family :=
  match family.find? pid with
  | none => family
  | some m =>
    match m.state, m.stopped with
    | .ended _, _ => family
    | _, none => family.affect m signal
    | _, some held =>
      if signal = .kill then family.affect m signal
      else if signal = .resume then
        let go := family.update pid fun m => { m with stopped := none }
        (held ++ [signal]).foldl (fun family signal =>
          match family.find? pid with
          | some m => if m.isAlive then family.affect m signal else family
          | none => family) go
      else family.update pid fun m => { m with stopped := some (held ++ [signal]) }

def view (family : Family) (around : Surroundings) (m : Member) : View :=
  { self := m.pid
    parent := m.parent
    store := around.store
    context := m.context
    children := (family.members.filter (·.parent == m.pid)).map fun child =>
      (child.pid, match child.state with
        | .ended ending => some ending
        | _ => none)
    elsewhere := (family.members.filter fun other => other.pid != m.pid && other.isAlive).flatMap
      fun other => other.context.descriptors.map Prod.snd
    present := (family.members.filter (·.pid != m.pid)).map (·.pid) ++ around.present }

def post (family : Family) (around : Surroundings) :
    List (Pid × Signal) → Family × Surroundings
  | [] => (family, around)
  | (pid, signal) :: rest =>
    if (family.find? pid).isSome then (family.receive pid signal).post around rest
    else family.post { around with sent := around.sent ++ [(pid, signal)] } rest

def step (family : Family) (around : Surroundings) (pid : Pid) :
    Option (Family × Surroundings) :=
  match family.find? pid with
  | none => none
  | some m =>
    let proceed (state : MemberState) : Family := family.update pid fun m => { m with state }
    match m.stopped, m.state with
    | some _, _ | _, .ended _ => none
    | _, .sleeping wake proc =>
      if wake ≤ family.clock then some (proceed (.ready proc), around) else none
    | _, .ready (.exit code) => some (family.finish pid (.exited code), around)
    | _, .ready (.sleep time proc) =>
      some (proceed (.sleeping (family.clock + time) proc), around)
    | _, .ready (.fork child next) =>
      let member : Member :=
        { pid := family.next, parent := pid, context := { m.context with pending := [] }
          state := .ready child }
      let after := proceed (.ready (next family.next))
      some ({ after with next := family.next + 1, members := after.members ++ [member] }, around)
    | _, .ready (.call request next) =>
      let view := family.view around m
      match request view with
      | none => none
      | some (answer, after) =>
        let kept := (proceed (.ready (next answer))).update pid fun m =>
          { m with context := after.context }
        let gone := (view.children.map Prod.fst).filter fun child =>
          (after.children.lookup child).isNone
        let kept := { kept with members := kept.members.filter fun m => !gone.contains m.pid }
        some (kept.post { around with store := after.store } after.sent)

/-- A member does things until it has to wait, at most `fuel` of them. Tells how many it did. -/
def stretch (fuel : Nat) (pid : Pid) (family : Family) (around : Surroundings) :
    Nat × Family × Surroundings :=
  match fuel with
  | 0 => (0, family, around)
  | fuel + 1 =>
    match family.step around pid with
    | none => (0, family, around)
    | some (family, around) =>
      let (done, family, around) := stretch fuel pid family around
      (done + 1, family, around)

def quantum : Nat := 4096

/-- Gives each member its turn. Tells how many things were done. -/
def round (family : Family) (around : Surroundings) : Nat × Family × Surroundings :=
  (family.members.map (·.pid)).foldl (fun (done, family, around) pid =>
    let (more, family, around) := stretch quantum pid family around
    (done + more, family, around)) (0, family, around)

def roundsInTurn : Nat := 64

/-- Gives the members turns until all of them wait. Tells whether they do. -/
def turn (fuel : Nat) (family : Family) (around : Surroundings) :
    Bool × Family × Surroundings :=
  match fuel with
  | 0 => (false, family, around)
  | fuel + 1 =>
    match family.round around with
    | (0, family, around) => (true, family, around)
    | (_, family, around) => turn fuel family around

/-- How long a family that never stops being busy works on in one turn. -/
def busyTime : Nat := 1000

def idleTime? (family : Family) : Option Nat :=
  (family.members.filterMap fun m =>
    match m.stopped, m.state with
    | none, .sleeping wake _ => some (wake - family.clock)
    | _, _ => none).min?

structure Turn : Type 1 where
  family : Family
  deed : Deed
  /-- How long it is until the next turn. -/
  delay : Nat

/-- Gives the family its turn. One that is still busy after it goes on a little later. -/
def work (family : Family) (scene : Scene) : Turn :=
  let (idle, family, around) :=
    family.turn roundsInTurn { store := scene.store, present := scene.present }
  { family
    deed := { store := around.store, sent := around.sent }
    delay := if idle then family.idleTime?.getD forever - 1 else busyTime }

def pass (family : Family) (time : Nat) : Family :=
  { family with clock := family.clock + time }

/-- What the leader does about a signal. A leader that has stopped itself takes note of all. -/
def reaction (family : Family) (signal : Signal) : Reaction :=
  match family.find? family.leader with
  | none => .default
  | some m => if m.stopped.isSome then .caught else m.context.reaction signal

def ending? (family : Family) : Option Ending :=
  match family.find? family.leader with
  | some { state := .ended ending, .. } => some ending
  | some _ => none
  | none => some (.exited 0)

def withoutLeader (family : Family) : Family :=
  let family := family.finish family.leader (.exited 0)
  { family with members := family.members.filter (·.pid != family.leader) }

def holds (family : Family) : List Handle :=
  (family.members.filter (·.isAlive)).flatMap fun m => m.context.descriptors.map Prod.snd

/-- What a family does that has lost its leader, in at most `fuel` turns, the first of them after
some time. -/
def activity (fuel delay : Nat) (family : Family) : Activity :=
  match fuel with
  | 0 => .quiet
  | fuel + 1 =>
    if family.members.isEmpty then .quiet
    else
      let ready := family.pass (delay + 1)
      .later delay (fun scene => (ready.work scene).deed)
        (fun scene =>
          let turn := ready.work scene
          activity fuel turn.delay turn.family)
        family.holds

def behaviour (fuel delay : Nat) (family : Family) : Behaviour :=
  match fuel with
  | 0 => .atOnce (.killed .kill)
  | fuel + 1 =>
    let ready := family.pass (delay + 1)
    .later delay (fun scene => (ready.work scene).deed)
      (fun scene =>
        let turn := ready.work scene
        match turn.family.ending? with
        | some ending => .ended ending (activity fuel turn.delay turn.family.withoutLeader)
        | none => behaviour fuel turn.delay turn.family)
      family.reaction
      (fun signal time => behaviour fuel 0 ((family.pass time).receive family.leader signal))
      (fun time =>
        let left := (family.pass time).withoutLeader
        activity fuel (left.idleTime?.getD forever - 1) left)
      family.holds

def turnLimit : Nat := 1000000000

end Family

def start (launch : Launch) (umask : Nat) (task : Task UInt8) : Behaviour :=
  let streams := launch.streams
  let signals := [Signal.interrupt, .terminalStop, .brokenPipe]
  let context : Context :=
    { descriptors := [(0, streams.input), (1, streams.output), (2, streams.errors)]
      cwd := launch.cwd, umask, ignored := signals.filter launch.policy.ignores }
  let leader : Member :=
    { pid := launch.pid, parent := launch.parent, context, state := .ready task.proc }
  let family : Family :=
    { leader := launch.pid, next := launch.pid * 100 + 1, members := [leader] }
  family.behaviour Family.turnLimit 0

end JobShell.Task
