import JobShell.Command

/-!
From a command to a line that reads as that command.
-/

namespace JobShell.Command

def renderTarget (direction : Direction) : Option String → String
  | some path => " " ++ direction.operator.toString ++ " " ++ path
  | none => ""

/-- The line of a command: a space, so that no first word makes it a comment, the words, the
redirections and the background mark. -/
def render (command : Command) : String :=
  " " ++ Text.unwords command.argv ++ renderTarget .input command.input ++
    renderTarget .output command.output ++ if command.background then " &" else ""

end JobShell.Command
