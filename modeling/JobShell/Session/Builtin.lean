import JobShell.Session

/-!
The commands that the shell runs itself: `exit`, `cd` and `status`. Every further word is an
operand, however it looks; redirections and `&` have no effect on them.
-/

namespace JobShell

inductive Builtin where
  | exit
  | cd
  | status
  deriving DecidableEq, Repr

namespace Builtin

def ofName? : String → Option Builtin
  | "exit" => some exit
  | "cd" => some cd
  | "status" => some status
  | _ => none

def runExit : Action Status := do
  let s ← get
  let (jobs, rest) := s.shell.jobs.drain s.shell.jobs.length
  jobs.forM fun job => do
    Session.modifyMachine fun m =>
      { m with children := m.children.signal job.pid .terminate }
    Session.note (.signaled job.pid .terminate)
  Session.modifyShell fun shell => { shell with jobs := rest, shouldExit := true }
  return s.shell.status

def cdTarget (env : Environment) (args : List String) : Option String :=
  match args.head? with
  | some target => if target = "" then env.home else some target
  | none => env.home

/-- Changes the directory of the process and the one on record, or neither. -/
def runCd (args : List String) : Action Status := do
  let s ← get
  match cdTarget s.shell.env args with
  | none => pure ()
  | some target =>
    let path := s.shell.env.resolve target
    match s.machine.store.files.canonicalDirectory? s.machine.cwd path with
    | none => pure ()
    | some (id, canonical) =>
      Session.modifyMachine fun m => { m with cwd := id }
      Session.modifyShell fun shell => { shell with env.currentDir := canonical }
  return s.shell.status

def runStatus : Action Status := do
  let s ← get
  Session.writeLine s.shell.status.text
  Session.flush
  return s.shell.status

/-- Runs a built-in command with its operands. The status stays what it was. -/
def run (args : List String) : Builtin → Action Status
  | exit => runExit
  | cd => runCd args
  | status => runStatus

end Builtin

end JobShell
