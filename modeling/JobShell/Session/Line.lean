import JobShell.Command.Parser
import JobShell.Session.Execute
import JobShell.Text.Lines

/-!
A session line by line: running one line, reporting the jobs that have ended, changing the mode,
and the two loops, over given lines and over lines as they are read.
-/

namespace JobShell.Session

def complaint (message : String) : String :=
  "smallsh: " ++ message

def complain (message : String) : Action Unit := do
  writeLine (complaint message)
  flush

/-- Runs a command. An error counts as failure once it is told; only a writer that fails ends the
action with an error. -/
def executeOrComplain (programs : Programs) (command : Command) : Action Status :=
  tryCatch (execute programs command) fun error =>
    match error with
    | .output _ => throw error
    | _ => do
      complain error.message
      return .failure

def runLine (programs : Programs) (line : String) : Action Unit := do
  let s ← get
  match parse line s.pid with
  | .ok none => pure ()
  | .error error => complain error.message
  | .ok (some command) =>
    let status ← executeOrComplain programs command
    modifyShell fun shell => { shell with status }

def doneLine (job : Job) (status : Status) : String :=
  "background pid " ++ toString job.pid ++ " is done: " ++ status.text

def reportFinishedJobs : Action Unit := do
  let s ← get
  let reaped := s.shell.jobs.reap s.machine.children
  set { s with shell.jobs := reaped.kept, machine.children := reaped.state }
  reaped.finished.forM fun (job, status) => writeLine (doneLine job status)
  flush

/-- Takes on the mode that was asked for, and says so if it is another one. -/
def syncMode : Action Unit := do
  let s ← get
  let requested := s.machine.signals.requested
  if requested ≠ s.shell.mode then
    modifyShell fun shell => { shell with mode := requested }
    writeLine requested.announcement
    flush

/-- Runs the lines in order up to the first `exit`; the end of the lines is one. -/
def runLines (programs : Programs) : List String → Action Unit
  | [] => runLine programs "exit"
  | line :: rest => do
    reportFinishedJobs
    runLine programs line
    let s ← get
    if s.shell.shouldExit then return
    else runLines programs rest

def prepareTurn : Action Unit := do
  reportFinishedJobs
  syncMode

def unreadableLine : String :=
  "stream did not contain valid UTF-8"

/-- How much of standard input is read at a time, in bytes. -/
def chunkBytes : Nat := 8192

/-- Takes the bytes of the next line from what was read ahead and from standard input, which is
read a chunk at a time; no bytes at the end of the input. `line` is what the line holds so far. None
if the line does not come to an end in `fuel` steps. -/
def takeLine (fuel : Nat) (line : Bytes) : Action (Option Bytes) := do
  match fuel with
  | 0 => return none
  | fuel + 1 =>
    let s ← get
    if s.ahead = [] then
      match s.machine.store.read s.machine.streams.input chunkBytes with
      | .error error => throw (.output error.message)
      | .ok (chunk, store) =>
        set { s with ahead := chunk, machine.store := store }
        if chunk = [] then return some line else takeLine fuel line
    else
      let (first, rest) := Text.splitLine s.ahead
      set { s with ahead := rest }
      if first.getLast? = some Text.lineFeed then return some (line ++ first)
      else takeLine fuel (line ++ first)

inductive LoopEnd where
  /-- By `exit`, or at the end of the input. -/
  | finished
  /-- At a line whose backspaces cut a character in two. -/
  | brokenOff
  /-- By the limit on how much is read. -/
  | cutShort
  deriving DecidableEq, Repr

def showPrompt : Option String → Action Unit
  | none => pure ()
  | some prompt => do
    writeText prompt
    flush

/-- Runs the lines of standard input, each as it is read, up to the first `exit`; the end of the
input is one. A line that is not text ends the session with an error. At most `fuel` lines are
read, each in at most `fuel` steps. -/
def promptLoop (programs : Programs) (prompt : Option String) (fuel : Nat) : Action LoopEnd :=
  go fuel
where
  /-- The rest of the session, of at most so many lines. -/
  go : Nat → Action LoopEnd
    | 0 => return .cutShort
    | lines + 1 => do
      let s ← get
      if s.shell.shouldExit then return .finished
      else
        prepareTurn
        showPrompt prompt
        match ← takeLine fuel [] with
        | none => return .cutShort
        | some line =>
          if line = [] then
            runLine programs "exit"
            return .finished
          else
            match Text.readTyped line with
            | .notText => throw (.output unreadableLine)
            | .cut => return .brokenOff
            | .line text =>
              runLine programs text
              go lines

end JobShell.Session
