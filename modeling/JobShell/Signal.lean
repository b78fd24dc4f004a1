/-!
Signals: their numbers and names, and what they do to a process that does nothing about them.
-/

namespace JobShell

inductive SignalAction where
  | terminate
  | ignore
  | stop
  | resume
  deriving DecidableEq, Repr

structure Signal where
  number : Nat
  pos : 0 < number := by decide
  le_last : number ≤ 64 := by decide
  deriving DecidableEq, Repr

namespace Signal

/-- The signals that have a name, in the order of their numbers from 1 on. -/
def names : List String :=
  ["HUP", "INT", "QUIT", "ILL", "TRAP", "ABRT", "BUS", "FPE", "KILL", "USR1", "SEGV", "USR2",
    "PIPE", "ALRM", "TERM", "STKFLT", "CHLD", "CONT", "STOP", "TSTP", "TTIN", "TTOU", "URG",
    "XCPU", "XFSZ", "VTALRM", "PROF", "WINCH", "IO", "PWR", "SYS"]

/-- The highest number of a signal with a name. A wait can tell of no other signal. -/
def lastNamed : Nat := 31

def interrupt : Signal := { number := 2 }
def quit : Signal := { number := 3 }
def kill : Signal := { number := 9 }
def segmentationFault : Signal := { number := 11 }
def brokenPipe : Signal := { number := 13 }
def terminate : Signal := { number := 15 }
def resume : Signal := { number := 18 }
def stop : Signal := { number := 19 }
def terminalStop : Signal := { number := 20 }

def ofNumber? (number : Nat) : Option Signal :=
  if h : 0 < number ∧ number ≤ 64 then some ⟨number, h.1, h.2⟩ else none

def ofName? (name : String) : Option Signal :=
  let plain := if name.startsWith "SIG" then (name.drop 3).toString else name
  (names.findIdx? (· == plain)).bind fun index => ofNumber? (index + 1)

/-- Whether a wait can tell of the signal. -/
def isNamed (signal : Signal) : Bool :=
  signal.number ≤ lastNamed

/-- The default action. Signals without a name terminate. -/
def action (signal : Signal) : SignalAction :=
  match signal.number with
  | 17 | 23 | 28 => .ignore
  | 18 => .resume
  | 19 | 20 | 21 | 22 => .stop
  | _ => .terminate

end Signal

end JobShell
