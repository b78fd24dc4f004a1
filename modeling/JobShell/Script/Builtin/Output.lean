import JobShell.Program.Printf
import JobShell.Script.Question
import JobShell.Script.State

/-!
Builtins that print, and `test`.
-/

namespace JobShell.Script.Builtin

/-- A builtin: from its arguments to its status. -/
abbrev Body := List String → Run Nat

/-- The options in front of arguments, at most `fuel` words of them; `letters` may be given, and
those in `valued` with a value. -/
def options (letters valued : List Char) (fuel : Nat) (args : List String) :
    Run (List (Char × String) × List String) := do
  match fuel, args with
  | fuel + 1, word :: rest =>
    match word.toList with
    | ['-', '-'] => return ([], rest)
    | '-' :: c :: cs =>
      let (first, rest) ← readLetters rest (c :: cs)
      let (more, rest) ← options letters valued fuel rest
      return (first ++ more, rest)
    | _ => return ([], args)
  | _, _ => return ([], args)
where
  readLetters (rest : List String) : List Char → Run (List (Char × String) × List String)
    | [] => pure ([], rest)
    | c :: cs => do
      if letters.contains c then
        let (more, rest) ← readLetters rest cs
        return ((c, "") :: more, rest)
      else if valued.contains c then
        match cs, rest with
        | [], [] => Run.fail ("No arg for -" ++ c.toString ++ " option")
        | [], value :: rest => return ([(c, value)], rest)
        | cs, rest => return ([(c, String.ofList cs)], rest)
      else Run.fail ("Illegal option -" ++ c.toString)

def operands (args : List String) : Run (List String) := do
  return (← options [] [] (args.length + 1) args).2

def echoStyle : Text.EscapeStyle :=
  { zeroFirst := true }

def echoed : List String → String
  | [] => "\n"
  | word :: rest =>
    let (text, cut) := Text.unescape echoStyle word.length word.toList
    String.ofList text ++
      if cut then "" else if rest.isEmpty then "\n" else " " ++ echoed rest

/-- Prints its arguments; with `-n` in front, no line end. -/
def echo : Body := fun args => do
  match args with
  | "-n" :: rest =>
    let text := if rest.isEmpty then "" else echoed rest
    let cut := rest.any fun word => (Text.unescape echoStyle word.length word.toList).2
    Run.print (if cut then text else (text.dropEnd (if rest.isEmpty then 0 else 1)).toString)
  | _ => Run.print (echoed args)
  return 0

def printf : Body := fun args => do
  match ← operands args with
  | [] => Run.fail "usage: printf format [arg ...]"
  | format :: args =>
    let printing := JobShell.printf .script format args
    printing.messages.forM fun entry => Run.warn entry.2
    Run.print (String.ofList printing.output)
    if printing.code = 2 then
      Run.setStatus 2
      throw .failure
    return printing.code.toNat

def test (args : List String) : Run Nat := do
  match ← Task.look fun view => Question.answer view false args with
  | .ok answer => return if answer then 0 else 1
  | .error fault => Run.fail fault.message

def bracket : Body := fun args => do
  if args.getLast? = some "]" then test args.dropLast else Run.fail "missing ]"

def success : Body := fun _ => pure 0

def failure : Body := fun _ => pure 1

end JobShell.Script.Builtin
