import JobShell.Session.Line

/-!
A session from outside: what is asked of the shell and what happens around it, step by step. A
step that fails does not end the session.
-/

namespace JobShell

inductive SessionStep where
  | line (text : String)
  | lines (texts : List String)
  | report
  | sync
  /-- The other mode is asked for. -/
  | toggle
  /-- A signal reaches the shell. -/
  | signal (signal : TerminalSignal)
  /-- A signal is sent to a child by somebody else. -/
  | signalChild (pid : Pid) (signal : Signal)
  | pass (time : Nat)
  /-- From now on the writer fails in another way. -/
  | writer (fault : Nat → WriterOperation → Option String)

namespace Session

def modifyChildren (f : Children → Children) : Action Unit :=
  modifyMachine fun m => { m with children := f m.children }

def perform (programs : Programs) : SessionStep → Action Unit
  | .line text => runLine programs text
  | .lines texts => runLines programs texts
  | .report => reportFinishedJobs
  | .sync => syncMode
  | .toggle => modifyMachine fun m => { m with signals := m.signals.toggleRequested }
  | .signal signal => receive signal
  | .signalChild pid signal => modifyChildren (·.signal pid signal)
  | .pass time => modifyMachine (·.advance time)
  | .writer fault => modify fun s => { s with writer.fault := fault }

/-- The error of an action, if it fails, and the state it leaves. -/
def outcome (action : Action Unit) (s : Session) : Option CommandError × Session :=
  match action.run s with
  | .ok _ s => (none, s)
  | .error error s => (some error, s)

def after (programs : Programs) (s : Session) (step : SessionStep) : Session :=
  (outcome (perform programs step) s).2

def afterAll (programs : Programs) (s : Session) (steps : List SessionStep) : Session :=
  steps.foldl (after programs) s

@[simp] theorem afterAll_nil (programs : Programs) (s : Session) :
    s.afterAll programs [] = s := rfl

@[simp] theorem afterAll_cons (programs : Programs) (s : Session) (step : SessionStep)
    (steps : List SessionStep) :
    s.afterAll programs (step :: steps) = (s.after programs step).afterAll programs steps := rfl

theorem afterAll_append (programs : Programs) (s : Session) (first second : List SessionStep) :
    s.afterAll programs (first ++ second) = (s.afterAll programs first).afterAll programs second :=
  List.foldl_append

end Session

end JobShell
