import JobShell.Command
import JobShell.Command.Expansion
import JobShell.Error

/-!
From a line to a command. A word `<` or `>` takes the next word as its target, whatever that word
is, and the last target of each direction counts; `&` sets the background flag if it is the very
last word; every other word is an argument.
-/

namespace JobShell

namespace Command

def addWords (command : Command) : List String → Except ParseError Command
  | [] => if command.argv.isEmpty then .error .missingCommand else .ok command
  | word :: rest =>
    match Direction.ofWord? word with
    | some direction =>
      match rest with
      | [] => .error (.missingTarget direction)
      | target :: rest => addWords (command.redirect direction target) rest
    | none =>
      if word = "&" ∧ rest = [] then addWords { command with background := true } rest
      else if command.argv.length = maxArguments then .error .tooManyArguments
      else addWords { command with argv := command.argv ++ [word] } rest

end Command

/-- Whether the line asks for nothing: it is blank, or a comment from its first character on. -/
def isSkipped (line : List Char) : Bool :=
  line.all Text.isBlank || line.head? == some '#'

def wordsOf (text : String) : List String :=
  (Text.words text.toList).map String.ofList

/-- The command on the line, if there is one. The text of the command is the line itself, without
the blanks at its end and with the process id put in. -/
def parse (line : String) (pid : UInt32) : Except ParseError (Option Command) :=
  if isSkipped line.toList then .ok none
  else if maxLineBytes < line.utf8ByteSize then .error .lineTooLong
  else
    let text := expandPid pid (String.ofList (Text.trimEnd line.toList))
    (Command.addWords {} (wordsOf text)).map fun command => some { command with text }

end JobShell
