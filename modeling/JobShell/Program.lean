import JobShell.Behaviour
import JobShell.Environment
import JobShell.Signal.State

/-!
What a program is to the shell: something that is started with words, streams and signal
dispositions, and then behaves somehow. The shell is defined for every such behaviour.
-/

namespace JobShell

inductive Image where
  | binary (program : String)
  /-- A text that `program` reads; `leading` stands in place of the name of the command. -/
  | script (program : String) (leading : List String)
  deriving DecidableEq, Repr

namespace Image

def program : Image → String
  | binary program => program
  | script program _ => program

def words (argv : List String) : Image → List String
  | binary _ => argv
  | script _ leading => leading ++ argv.tail

end Image

structure Launch where
  image : Image
  argv : List String
  pid : Pid
  parent : Pid
  cwd : NodeId
  exported : Variables
  streams : Streams
  policy : SignalPolicy
  /-- Whether SIGTSTP is held back. -/
  stopBlocked : Bool
  deriving DecidableEq, Repr

abbrev Programs := Launch → Behaviour

end JobShell
