import JobShell.Signal

/-!
How a process ended, and what the shell remembers of it. A foreground command leaves a collapsed
status: every exit code other than 0 counts as 1, signal numbers are kept.
-/

namespace JobShell

inductive Ending where
  | exited (code : UInt8)
  | killed (signal : Signal)
  deriving DecidableEq, Repr

/-- How a process ended, as numbers: with an exit code, or killed by a signal. -/
inductive Status where
  | exited (code : Int)
  | signaled (signal : Int)
  deriving DecidableEq, Repr

inductive WaitResult where
  | exited (code : Int)
  | signaled (signal : Int) (coreDumped : Bool)
  | stopped (signal : Int)
  | traceEvent (signal : Int)
  | traceSyscall
  | continued
  | stillAlive
  deriving DecidableEq, Repr

def Ending.status : Ending → Status
  | exited code => .exited code.toNat
  | killed signal => .signaled signal.number

def WaitResult.ofEnding : Ending → WaitResult
  | .exited code => .exited code.toNat
  | .killed signal => .signaled signal.number false

namespace Status

def success : Status := exited 0

def failure : Status := exited 1

instance : Inhabited Status := ⟨success⟩

/-- The status behind a wait result; none unless the process has ended. -/
def ofWait? : WaitResult → Option Status
  | .exited code => some (exited code)
  | .signaled signal _ => some (signaled signal)
  | _ => none

def collapsed : Status → Status
  | exited code => if code = 0 then success else failure
  | signaled signal => signaled signal

def isSignal : Status → Bool
  | exited _ => false
  | signaled _ => true

def value : Status → Int
  | exited code => code
  | signaled signal => signal

/-- The code the shell itself exits with: 128 is added to a signal number. -/
def exitCode : Status → Int
  | exited code => code
  | signaled signal => 128 + signal

def text : Status → String
  | exited code => "exit value " ++ toString code
  | signaled signal => "terminated by signal " ++ toString signal

@[simp] theorem ofWait?_ofEnding (ending : Ending) :
    ofWait? (.ofEnding ending) = some ending.status := by
  cases ending <;> rfl

@[simp] theorem collapsed_collapsed (s : Status) : s.collapsed.collapsed = s.collapsed := by
  cases s with
  | exited code => by_cases h : code = 0 <;> simp [collapsed, success, failure, h]
  | signaled _ => rfl

end Status

end JobShell
