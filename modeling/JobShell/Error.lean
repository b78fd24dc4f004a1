import JobShell.Direction

/-!
What can go wrong, as causes. `ParseError` is about a command line, `CommandError` about running
a command that was read. The wording of each is in its `message`.
-/

namespace JobShell

inductive ParseError where
  | missingTarget (direction : Direction)
  | missingCommand
  | lineTooLong
  | tooManyArguments
  deriving DecidableEq, Repr

/-- The longest command line, in bytes of UTF-8. -/
def maxLineBytes : Nat := 2048

def maxArguments : Nat := 512

def ParseError.message : ParseError → String
  | missingTarget direction => "missing file name after '" ++ direction.operator.toString ++ "'"
  | missingCommand => "missing command name"
  | lineTooLong => "command line longer than " ++ toString maxLineBytes ++ " characters"
  | tooManyArguments => "more than " ++ toString maxArguments ++ " arguments"

inductive Fault where
  | tryAgain
  | outOfMemory
  | noChild
  | invalidArgument
  | notPermitted
  | noProcess
  deriving DecidableEq, Repr

def Fault.code : Fault → String
  | tryAgain => "EAGAIN"
  | outOfMemory => "ENOMEM"
  | noChild => "ECHILD"
  | invalidArgument => "EINVAL"
  | notPermitted => "EPERM"
  | noProcess => "ESRCH"

def Fault.message (fault : Fault) : String :=
  fault.code ++ ": " ++
    match fault with
    | tryAgain => "Try again"
    | outOfMemory => "Out of memory"
    | noChild => "No child processes"
    | invalidArgument => "Invalid argument"
    | notPermitted => "Operation not permitted"
    | noProcess => "No such process"

inductive CommandError where
  | spawn (fault : Fault)
  | redirection (path : String) (direction : Direction)
  | notFound (name : String)
  | nulInArgument (name : String)
  | wait (pid : Int) (fault : Fault)
  | signalSetup (fault : Fault)
  | output (text : String)
  deriving DecidableEq, Repr

def CommandError.message : CommandError → String
  | spawn fault => "cannot spawn process: " ++ fault.message
  | redirection path direction => "cannot open " ++ path ++ " for " ++ direction.name
  | notFound name => name ++ ": no such file or directory"
  | nulInArgument name => name ++ ": argument contains a NUL byte"
  | wait pid fault => "wait for pid " ++ toString pid ++ " failed: " ++ fault.message
  | signalSetup fault => "signal setup failed: " ++ fault.message
  | output text => text

end JobShell
