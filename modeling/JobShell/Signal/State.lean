import JobShell.Mode
import JobShell.Signal

/-!
The shell's own signals. SIGINT is ignored; SIGTSTP asks for the other mode, at once or, while it
is blocked, when the block ends. The mode that was asked for is kept here until the shell looks.
-/

namespace JobShell

inductive Disposition where
  | default
  | ignore
  | handler
  deriving DecidableEq, Repr, Inhabited

structure SignalPolicy where
  interrupt : Disposition
  stop : Disposition
  pipe : Disposition := .default
  deriving DecidableEq, Repr, Inhabited

/-- A foreground child can be interrupted; no child can be stopped from the terminal. The shell
ignores SIGPIPE from its first moment on, and every child inherits that. -/
def SignalPolicy.forChild (background : Bool) : SignalPolicy :=
  { interrupt := if background then .ignore else .default, stop := .ignore, pipe := .ignore }

/-- The signals that the shell takes notice of: the two that a terminal sends, and the one that makes
a stopped process go on. -/
inductive TerminalSignal where
  | interrupt
  | stop
  | resume
  deriving DecidableEq, Repr

def TerminalSignal.ofSignal? (signal : Signal) : Option TerminalSignal :=
  if signal = .interrupt then some interrupt
  else if signal = .terminalStop then some stop
  else if signal = .resume then some resume
  else none

def SignalPolicy.ignores (policy : SignalPolicy) (signal : Signal) : Bool :=
  (signal == .interrupt && policy.interrupt == .ignore) ||
    (signal == .terminalStop && policy.stop == .ignore) ||
    (signal == .brokenPipe && policy.pipe == .ignore)

structure SignalState where
  interrupt : Disposition
  stop : Disposition
  /-- Whether SIGTSTP is held back. -/
  blocked : Bool := false
  /-- Whether a SIGTSTP is held back at the moment. -/
  pending : Bool := false
  /-- The guards that hold SIGTSTP back and are still alive. -/
  guards : Nat := 0
  /-- The mode that was last asked for. -/
  requested : Mode := .interactive
  deriving DecidableEq, Repr, Inhabited

namespace SignalState

/-- The state of a shell whose handlers are installed. -/
def ofMode (requested : Mode) : SignalState :=
  { interrupt := .ignore, stop := .handler, requested }

def setRequested (s : SignalState) (mode : Mode) : SignalState :=
  { s with requested := mode }

def toggleRequested (s : SignalState) : SignalState :=
  { s with requested := s.requested.toggled }

/-- Installs the handlers of the shell. Ignoring SIGINT drops nothing here, since SIGINT is never
held back. -/
def installHandlers (s : SignalState) : SignalState :=
  { s with interrupt := .ignore, stop := .handler }

/-- Installs the dispositions of a child. A signal that comes to be ignored is dropped if it is
held back. -/
def adopt (s : SignalState) (policy : SignalPolicy) : SignalState :=
  { s with
    interrupt := policy.interrupt
    stop := policy.stop
    pending := s.pending && policy.stop != .ignore }

def isFatal (s : SignalState) : TerminalSignal → Bool
  | .interrupt => s.interrupt == .default
  | .stop => s.stop == .default
  | .resume => false

def deliverStop (s : SignalState) : SignalState :=
  if s.stop = .handler then s.toggleRequested else s

/-- A signal is sent to the process. A blocked SIGTSTP is held back even while it is ignored,
because that may change before the block ends; a second one adds nothing. SIGCONT takes back one that
is held back. -/
def raise (s : SignalState) : TerminalSignal → SignalState
  | .interrupt => s
  | .stop => if s.blocked then { s with pending := true } else s.deliverStop
  | .resume => { s with pending := false }

/-- Creates a guard, which holds SIGTSTP back. -/
def block (s : SignalState) : SignalState :=
  { s with blocked := true, guards := s.guards + 1 }

/-- Drops the newest guard, if there is one. Guards do not nest: SIGTSTP is let through, whatever
guards are left, and one that was held back is delivered. -/
def unblock (s : SignalState) : SignalState :=
  if s.guards = 0 then s
  else
    let after := { s with blocked := false, pending := false, guards := s.guards - 1 }
    if s.pending then after.deliverStop else after

@[simp] theorem requested_toggleRequested (s : SignalState) :
    s.toggleRequested.requested = s.requested.toggled := rfl

theorem raise_stop_of_blocked {s : SignalState} (h : s.blocked = true) :
    s.raise .stop = { s with pending := true } := by
  simp [raise, h]

theorem raise_stop_of_not_blocked {s : SignalState} (h : s.blocked = false) :
    s.raise .stop = s.deliverStop := by
  simp [raise, h]

/-- However often it is raised, a blocked signal is held back once. -/
theorem raise_stop_twice {s : SignalState} (h : s.blocked = true) :
    (s.raise .stop).raise .stop = s.raise .stop := by
  simp [raise, h]

end SignalState

end JobShell
