import JobShell.Number.Integer
import JobShell.Script.Syntax
import JobShell.Task.Files

/-!
What a running script knows and remembers, and how a step of it can leave off. What it says on
standard error starts with its name and a line.
-/

namespace JobShell.Script

inductive Setting where
  | errexit
  | noglob
  | ignoreeof
  | interactive
  | monitor
  | noexec
  | stdin
  | xtrace
  | verbose
  | vi
  | emacs
  | noclobber
  | allexport
  | notify
  | nounset
  | privileged
  | nolog
  | debug
  deriving DecidableEq, Repr

namespace Setting

def all : List Setting :=
  [errexit, noglob, ignoreeof, interactive, monitor, noexec, stdin, xtrace, verbose, vi, emacs,
    noclobber, allexport, notify, nounset, privileged, nolog, debug]

def name : Setting → String
  | errexit => "errexit"
  | noglob => "noglob"
  | ignoreeof => "ignoreeof"
  | interactive => "interactive"
  | monitor => "monitor"
  | noexec => "noexec"
  | stdin => "stdin"
  | xtrace => "xtrace"
  | verbose => "verbose"
  | vi => "vi"
  | emacs => "emacs"
  | noclobber => "noclobber"
  | allexport => "allexport"
  | notify => "notify"
  | nounset => "nounset"
  | privileged => "privileged"
  | nolog => "nolog"
  | debug => "debug"

def letter? : Setting → Option Char
  | errexit => some 'e'
  | noglob => some 'f'
  | ignoreeof => some 'I'
  | interactive => some 'i'
  | monitor => some 'm'
  | noexec => some 'n'
  | stdin => some 's'
  | xtrace => some 'x'
  | verbose => some 'v'
  | vi => some 'V'
  | emacs => some 'E'
  | noclobber => some 'C'
  | allexport => some 'a'
  | notify => some 'b'
  | nounset => some 'u'
  | privileged => some 'p'
  | nolog | debug => none

def ofLetter? (letter : Char) : Option Setting :=
  all.find? (·.letter? == some letter)

def ofName? (name : String) : Option Setting :=
  all.find? (·.name == name)

end Setting

structure Variable where
  value : Option String
  exported : Bool := false
  fixed : Bool := false
  deriving DecidableEq, Repr, Inhabited

structure Function where
  body : Command
  deriving Inhabited

structure Frame where
  saved : List (String × Option Variable) := []
  settings : Option (List Setting) := none
  deriving DecidableEq, Repr, Inhabited

structure Job where
  number : Nat
  pids : List Pid
  /-- Whether it has been waited for. -/
  awaited : Bool := false
  deriving DecidableEq, Repr

structure State where
  name : String
  /-- The process that the script started in. -/
  root : Pid
  parameters : List String := []
  bindings : List (String × Variable) := []
  frames : List Frame := []
  functions : List (String × Function) := []
  aliases : Variables := []
  /-- The paths of programs that were looked for. -/
  tracked : Variables := []
  settings : List Setting := []
  /-- The status of the last command. -/
  status : Nat := 0
  /-- The status of the last command whose output was put in. -/
  outputStatus : Nat := 0
  /-- The last process that was started in the background. -/
  background : Option Pid := none
  jobs : List Job := []
  /-- How children have ended that were let go of. -/
  endings : List (Pid × Ending) := []
  /-- The path of the working directory as the script came to it; empty if it is not known. -/
  directory : String := ""
  /-- What is done when a signal comes, by its number; 0 stands for the end of the script. -/
  traps : List (Nat × String) := []
  /-- The signals that were ignored when the script started, and always are. -/
  deaf : List Signal := []
  /-- Whether an interrupt only takes effect when the script is not waiting for a child. -/
  patient : Bool := false
  trapStatus : Option Nat := none
  documents : List (Nat × Document) := []
  nextDocument : Nat := 0
  builtin : Option String := none
  line : Nat := 0
  /-- The line to which the script has been read. -/
  reached : Nat := 0
  functionDepth : Nat := 0
  loopDepth : Nat := 0
  /-- Whether this is a process that the script has started for commands of its own. -/
  subshell : Bool := false
  /-- What a builtin has printed. -/
  output : List String := []
  /-- The word that `getopts` comes to next, counted from one. -/
  optionIndex : Nat := 1
  /-- How many characters of the word before that it has read, if it is not done with it. -/
  optionOffset : Nat := 0
  /-- Whether commands are traced just now. -/
  tracing : Bool := false
  deriving Inhabited

inductive Jump where
  | exit
  /-- Something is wrong, which ends the script unless a builtin caught it. -/
  | failure
  /-- That many loops are left. -/
  | leave (loops : Nat)
  /-- That many loops are left but for the last, which goes on. -/
  | next (loops : Nat)
  /-- A function or a file that is read is left. -/
  | returned
  deriving DecidableEq, Repr

abbrev Run := ExceptT Jump (StateT State Task)

namespace Run

def attempt {α : Type} (run : Run α) : Run (Except Jump α) :=
  ExceptT.lift (ExceptT.run run)

def resume {α : Type} : Except Jump α → Run α
  | .ok a => pure a
  | .error jump => throw jump

def know {α : Type} (f : State → α) : Run α := do
  return f (← get)

def isOn (setting : Setting) : Run Bool :=
  know (·.settings.contains setting)

def header : Run String := do
  let state ← get
  let builtin := match state.builtin with
    | some name => name ++ ": "
    | none => ""
  return state.name ++ ": " ++ toString state.line ++ ": " ++ builtin

def warn (message : String) : Run Unit := do
  Task.complain ((← header) ++ message ++ "\n")

def setStatus (status : Nat) : Run Unit :=
  modify fun state => { state with status }

def fail {α : Type} (message : String) : Run α := do
  warn message
  setStatus 2
  throw .failure

def quit {α : Type} (message : String) (status : Nat) : Run α := do
  warn message
  setStatus status
  throw .exit

def print (text : String) : Run Unit :=
  modify fun state => { state with output := text :: state.output }

def value? (name : String) : Run (Option String) :=
  know fun state => (state.bindings.lookup name).bind Variable.value

def exported : Run Variables := do
  return (← get).bindings.filterMap fun (name, v) =>
    if v.exported then v.value.map fun value => (name, value) else none

def optionStart (value : Option String) : Nat :=
  max 1 (Number.ofDigits 10 ((value.getD "1").toList.filter Char.isDigit))

def putVariable (name : String) (entry : Option Variable) : Run Unit :=
  modify fun state =>
    let others := state.bindings.filter (·.1 != name)
    let state :=
      { state with
        bindings := match entry with
          | some v => (name, v) :: others
          | none => others }
    if name = "OPTIND" then
      { state with optionIndex := optionStart (entry.bind Variable.value), optionOffset := 0 }
    else if name = "PATH" then { state with tracked := [] }
    else state

def assign (name value : String) : Run Unit := do
  let state ← get
  if !isName name then fail (name ++ ": bad variable name")
  let old := (state.bindings.lookup name).getD { value := none }
  if old.fixed then fail (name ++ ": is read only")
  putVariable name (some
    { old with
      value := some value
      exported := old.exported || state.settings.contains .allexport })

def assignExported (name value : String) : Run Unit := do
  assign name value
  modify fun state =>
    { state with
      bindings := state.bindings.map fun (other, v) =>
        (other, if other = name then { v with exported := true } else v) }

def pushFrame : Run Unit :=
  modify fun state => { state with frames := {} :: state.frames }

def popFrame : Run Unit := do
  match (← get).frames with
  | [] => return
  | frame :: frames =>
    modify fun state => { state with frames, settings := frame.settings.getD state.settings }
    frame.saved.forM fun (name, v) => putVariable name v

/-- Makes a variable local to the last frame. It keeps its value. -/
def makeLocal (name : String) : Run Unit :=
  modify fun state =>
    match state.frames with
    | [] => state
    | frame :: frames =>
      if frame.saved.any (·.1 == name) then state
      else
        let saved := (name, state.bindings.lookup name) :: frame.saved
        { state with frames := { frame with saved } :: frames }

def number (text : String) : Run Nat := do
  let digits := text.toList
  if digits ≠ [] ∧ digits.all Char.isDigit ∧ Number.ofDigits 10 digits < 2147483648 then
    return Number.ofDigits 10 digits
  else fail ("Illegal number: " ++ text)

end Run

end JobShell.Script
