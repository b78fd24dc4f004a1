import JobShell.Session.Line
import JobShell.Text.Lines

/-!
The shell as a program: its arguments, its usage text, and a run from the first line to the exit
code.
-/

namespace JobShell

structure Options where
  prompt : Option String := none
  foregroundOnly : Bool := false
  debug : Bool := false
  /-- The lines to run instead of the input. -/
  commands : List String := []
  deriving DecidableEq, Repr, Inhabited

inductive UsageError where
  | unrecognized (argument : String)
  | noValue (option : String)
  | duplicate (option value : String)
  | afterHelp
  deriving DecidableEq, Repr

namespace UsageError

def reason : UsageError → String
  | unrecognized argument => "Unrecognized argument: " ++ argument ++ "\n"
  | noValue option => "No value provided for option '" ++ option ++ "'.\n"
  | duplicate option value =>
    "Error parsing option '" ++ option ++ "' with value '" ++ value ++
      "': duplicate values provided\n"
  | afterHelp => "Trailing arguments are not allowed after `help`."

def message (error : UsageError) : String :=
  error.reason ++ "\nRun smallsh --help for more information.\n"

end UsageError

/-- What the arguments come to: a run, or a request for help. -/
inductive Request where
  | run (options : Options)
  | help
  deriving DecidableEq, Repr

def usage : String :=
  String.intercalate "\n"
    ["Usage: smallsh [--prompt <prompt>] [--foreground-only] [-d] [-c <command...>]",
      "",
      "A small shell with foreground and background job control.",
      "",
      "Options:",
      "  --prompt          prompt printed before each command line.",
      "  --foreground-only start with '&' ignored, as if Ctrl-Z had already been",
      "                    pressed.",
      "  -d, --debug       log at debug level unless SMALLSH_LOG says otherwise.",
      "  -c, --command     run this line instead of reading from the terminal; may be",
      "                    repeated.",
      "  --help, help      display usage information",
      "",
      ""]

namespace Options

def switch? (options : Options) : String → Option Options
  | "--foreground-only" => some { options with foregroundOnly := true }
  | "-d" | "--debug" => some { options with debug := true }
  | _ => none

def withValue (options : Options) (option value : String) : Except UsageError Options :=
  match option with
  | "--prompt" =>
    if options.prompt.isSome then .error (.duplicate option value)
    else .ok { options with prompt := some value }
  | _ => .ok { options with commands := options.commands ++ [value] }

/-- Whether an option takes the next argument as its value, whatever that looks like. -/
def takesValue (argument : String) : Bool :=
  argument == "--prompt" || argument == "-c" || argument == "--command"

/-- Reads the arguments. `help` says whether help was asked for already, `ended` whether `--` was
seen, after which nothing is an option. -/
def read (options : Options) (help ended : Bool) : List String → Except UsageError Request
  | [] => .ok (if help then .help else .run options)
  | argument :: rest =>
    if ended then .error (.unrecognized argument)
    else if argument = "--help" ∨ argument = "help" then read options true ended rest
    else if argument = "--" then read options help true rest
    else if !argument.startsWith "-" then .error (.unrecognized argument)
    else if help then .error .afterHelp
    else if takesValue argument then
      match rest with
      | [] => .error (.noValue argument)
      | value :: rest =>
        match options.withValue argument value with
        | .ok options => read options help ended rest
        | .error error => .error error
    else
      match options.switch? argument with
      | some options => read options help ended rest
      | none => .error (.unrecognized argument)

end Options

def readArguments (arguments : List String) : Except UsageError Request :=
  Options.read {} false false arguments

namespace CommandLine

structure Invocation where
  machine : Machine
  exported : Variables
  currentDir : String
  /-- Why the system refuses the process with this number, if it does. -/
  refusal : Nat → Option Fault := fun _ => none

def start (invocation : Invocation) (options : Options) : Session :=
  let mode : Mode := if options.foregroundOnly then .foregroundOnly else .interactive
  { shell :=
      { mode
        env :=
          { vars := invocation.exported, inherited := invocation.exported
            currentDir := invocation.currentDir } }
    machine := { invocation.machine with signals := .ofMode mode }
    writer := { onOutput := true }
    refusal := invocation.refusal }

def defaultPrompt : String := ":"

/-- The terminals, by the name in TERM, on which lines are not edited. There the prompt is shown
even if the input does not come from a terminal. -/
def plainTerminals : List String := ["dumb", "cons25", "emacs"]

/-- A letter of ASCII in its small form; any other character is kept. -/
def lowered (text : String) : String :=
  String.ofList (text.toList.map Char.toLower)

def shownPrompt (exported : Variables) (options : Options) : Option String :=
  match exported.get? "TERM" with
  | some terminal =>
    if plainTerminals.contains (lowered terminal) then some (options.prompt.getD defaultPrompt)
    else none
  | none => none

/-- How many more lines than standard input has bytes may be read. -/
def spareLines : Nat := 65536

def session (programs : Programs) (options : Options) : Action Session.LoopEnd := do
  if options.commands = [] then
    let s ← get
    let fuel := (s.machine.store.content s.machine.streams.input).length + spareLines
    Session.promptLoop programs (shownPrompt s.shell.env.inherited options) fuel
  else
    Session.runLines programs options.commands
    return .finished

/-- The code of the process: the low byte of the code of the last status. -/
def exitByte (status : Status) : UInt8 :=
  UInt8.ofNat (status.exitCode % 256).toNat

def brokenOffCode : UInt8 := 101

def report (options : Options) (error : CommandError) : String :=
  if options.commands = [] then
    "Error: reading input\n\nCaused by:\n    " ++ error.message ++ "\n"
  else "Error: " ++ error.message ++ "\n"

/-- The program: its exit code and the session it leaves. An error ends it with code 1. -/
def run (programs : Programs) (invocation : Invocation) (options : Options) : UInt8 × Session :=
  match (session programs options).run (start invocation options) with
  | .ok .finished s | .ok .cutShort s => (exitByte s.shell.status, s)
  | .ok .brokenOff s => (brokenOffCode, s)
  | .error error s =>
    (1, { s with
      machine.store := s.machine.store.writeText s.machine.streams.errors (report options error) })

end CommandLine

end JobShell
