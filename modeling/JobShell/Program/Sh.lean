import JobShell.Program.Print
import JobShell.Script.Evaluation

/-!
The program `sh`, which runs a script: a text among its arguments, a file, or what it reads from
standard input.
-/

namespace JobShell.Sh

open Script

/-- How much of a script is read at a time, in bytes. -/
def blockBytes : Nat := 8192

def fileNumber : Nat := Interpreter.hidden 9

def fixedVariables (parent : Pid) : Variables :=
  [("IFS", String.ofList blanks), ("OPTIND", "1"), ("PPID", toString parent)]

def defaultVariables : Variables :=
  [("PATH", usualPath), ("PS1", "# "), ("PS2", "> "), ("PS4", "+ ")]

def firstVariables (parent : Pid) (given : Variables) : List (String × Variable) :=
  let fixed := fixedVariables parent
  let imported := (given.filter fun entry => isName entry.1).map fun (name, value) =>
    (name, { value := some ((fixed.get? name).getD value), exported := true : Variable })
  let others := (fixed ++ defaultVariables).filter fun entry => (imported.lookup entry.1).isNone
  imported ++ others.map fun (name, value) => (name, { value := some value })

/-- Finds out where the script is: in the directory that PWD names, if it is that. -/
def orient : Run Unit := do
  let here ← match ← Run.value? "PWD" with
    | some path =>
      if path.toList.head? = some '/' then do
        let cwd ← Task.look (·.context.cwd)
        match ← Task.stat path true with
        | .ok (id, _) => pure (if id = cwd then some path else none)
        | .error _ => pure none
      else pure none
    | none => pure none
  Builtin.noteDirectory here false

/-- Reads the options of the script. Tells whether its text is among the arguments, and the
arguments that follow. -/
def readOptions (fuel : Nat) (hasText : Bool) (args : List String) :
    Run (Bool × List String) := do
  match fuel, args with
  | fuel + 1, word :: rest =>
    let read (on : Bool) (letters : List Char) : Run (Bool × List String) := do
      let rest ← Builtin.switchLetters on rest (letters.filter fun c => c != 'c' && c != 'l')
      readOptions fuel (hasText || letters.contains 'c') rest
    match word.toList with
    | ['-'] | ['-', '-'] => return (hasText, rest)
    | '-' :: letters => read true letters
    | '+' :: letters => read false letters
    | _ => return (hasText, args)
  | _, _ => return (hasText, args)

def adopt (args : List String) : Run Unit :=
  modify fun state =>
    match args with
    | [] => state
    | name :: parameters => { state with name, parameters }

def bePatient : Run Unit := do
  if !(← Run.know (·.deaf)).contains .interrupt then
    modify fun state => { state with patient := true }
    Task.modifyContext fun context => { context with caught := .interrupt :: context.caught }

def runOpened (i : Interpreter) (number : Nat) : Run Unit := do
  let refill : Run (Option (List Char)) := do
    match ← Task.read number blockBytes with
    | .ok [] | .error _ => return none
    | .ok bytes => return some ((Text.ofBytes bytes).toList.filter (· != '\x00'))
  let _ ← i.runSource refill {} limit 0 { rest := [], more := true }

def runArguments (i : Interpreter) (args : List String) : Run Unit := do
  let (hasText, operands) ← readOptions (args.length + 1) false args
  let _ ← Interpreter.flush "sh"
  match hasText, operands with
  | true, [] => Run.fail "-c requires an argument"
  | true, text :: rest =>
    adopt rest
    bePatient
    let goesOn ← Run.isOn .stdin
    let _ ← i.runText { last := !goesOn } text
    if goesOn then runOpened i 0
  | false, operands =>
    if operands ≠ [] && !(← Run.isOn .stdin) then
      Run.place fileNumber (← Run.openFile .read (operands.headD ""))
      adopt operands
      bePatient
      runOpened i fileNumber
    else
      Builtin.switch .stdin true
      Builtin.setParameters operands
      runOpened i 0

def sh (i : Interpreter) : Utility := fun invocation => do
  let self ← Task.look (·.self)
  let parent ← Task.look (·.parent)
  let deaf ← Task.look (·.context.ignored)
  let start : State :=
    { name := invocation.name, root := self, bindings := firstVariables parent invocation.vars, deaf }
  let script : Run Unit := do
    orient
    let _ ← Run.attempt (runArguments i invocation.args)
    i.finish
  let (_, final) ← script.run.run start
  return UInt8.ofNat final.status

end JobShell.Sh
