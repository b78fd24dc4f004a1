import JobShell.Direction
import JobShell.Text.Blank

/-!
A command as the shell runs it: its words, where its streams go, and the text it came from.
-/

namespace JobShell

structure Command where
  /-- The name of the program and its arguments. -/
  argv : List String := []
  /-- The file that standard input is read from. -/
  input : Option String := none
  /-- The file that standard output is written to. -/
  output : Option String := none
  /-- Whether the line ended with `&`. -/
  background : Bool := false
  /-- The line the command was read from, for reports. -/
  text : String := ""
  deriving DecidableEq, Repr, Inhabited

namespace Command

def ofWords (argv : List String) : Command :=
  { argv, text := Text.unwords argv }

/-- The first word; empty if there is none. -/
def name (command : Command) : String :=
  command.argv.headD ""

def args (command : Command) : List String :=
  command.argv.tail

def target (command : Command) : Direction → Option String
  | .input => command.input
  | .output => command.output

def redirect (command : Command) (direction : Direction) (path : String) : Command :=
  match direction with
  | .input => { command with input := some path }
  | .output => { command with output := some path }

@[simp] theorem target_redirect (command : Command) (direction : Direction) (path : String) :
    (command.redirect direction path).target direction = some path := by
  cases direction <;> rfl

@[simp] theorem argv_redirect (command : Command) (direction : Direction) (path : String) :
    (command.redirect direction path).argv = command.argv := by
  cases direction <;> rfl

def inBackground (command : Command) : Command :=
  { command with background := true, text := command.text ++ " &" }

end Command

end JobShell
