import JobShell.Command
import JobShell.Environment
import JobShell.Machine
import JobShell.Registry

/-!
The state of a session: the shell's own memory, the machine around its process, and the writer
that takes its output. What the shell does is an `Action` on this state; one that fails keeps the
changes made up to there.
-/

namespace JobShell

inductive WriterOperation where
  | write
  | flush
  deriving DecidableEq, Repr

structure Writer where
  /-- The texts written so far, in order. -/
  written : List String := []
  /-- How many operations were asked for so far, failed ones included. -/
  operations : Nat := 0
  /-- The text of the error if the operation with this number fails. -/
  fault : Nat → WriterOperation → Option String := fun _ _ => none
  /-- Whether the texts also go to the standard output of the shell's process. -/
  onOutput : Bool := false

structure Shell where
  /-- How the last foreground command ended. -/
  status : Status := .success
  /-- The background jobs that were not seen to end. -/
  jobs : Registry := []
  mode : Mode := .interactive
  env : Environment := {}
  shouldExit : Bool := false
  deriving DecidableEq, Repr, Inhabited

inductive Event where
  /-- A child was created for a command with this text. -/
  | created (pid : Pid) (text : String)
  /-- A child reached its program. -/
  | launched (launch : Launch)
  | signaled (pid : Pid) (signal : Signal)
  deriving DecidableEq, Repr

structure Session where
  shell : Shell := {}
  machine : Machine
  writer : Writer := {}
  /-- What was read from standard input and belongs to lines that are still to come. -/
  ahead : Bytes := []
  /-- How often the system was asked for another process. -/
  forks : Nat := 0
  /-- Why the request with this number is refused, if it is. -/
  refusal : Nat → Option Fault := fun _ => none
  /-- What was done to other processes, in order. -/
  history : List Event := []

/-- What the shell does. An action that fails leaves the state it had reached. -/
abbrev Action := EStateM CommandError Session

namespace Session

def pid (s : Session) : UInt32 :=
  s.machine.pid

/-- Counts an operation of the writer; tells the error if it fails. -/
def operate (operation : WriterOperation) : Action Unit := do
  let s ← get
  set { s with writer.operations := s.writer.operations + 1 }
  match s.writer.fault s.writer.operations operation with
  | some text => throw (.output text)
  | none => pure ()

def writeText (text : String) : Action Unit := do
  operate .write
  modify fun s =>
    { s with
      writer.written := s.writer.written ++ [text]
      machine.store :=
        if s.writer.onOutput then s.machine.store.writeText s.machine.streams.output text
        else s.machine.store }

/-- Says a line in one write. A shell that hands over a line in several pieces leaves a part of it with
a writer that fails in between; here such a writer has none of it. -/
def writeLine (line : String) : Action Unit :=
  writeText (line ++ "\n")

def flush : Action Unit :=
  operate .flush

def modifyShell (f : Shell → Shell) : Action Unit :=
  modify fun s => { s with shell := f s.shell }

def modifyMachine (f : Machine → Machine) : Action Unit :=
  modify fun s => { s with machine := f s.machine }

def note (event : Event) : Action Unit :=
  modify fun s => { s with history := s.history ++ [event] }

def receive (signal : TerminalSignal) : Action Unit :=
  modifyMachine fun m => { m with signals := m.signals.raise signal }

end Session

end JobShell
