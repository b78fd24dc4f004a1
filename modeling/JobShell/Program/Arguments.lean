import JobShell.Task.Files
import JobShell.Text.Quoting

/-!
How a program of the system is invoked: its name, its words, told apart as options and operands, and
what it says when they make no sense. All texts have one character for each byte.
-/

namespace JobShell

structure Invocation where
  name : String
  args : List String
  vars : Variables
  deriving DecidableEq, Repr

abbrev Utility := Invocation → Task UInt8

inductive ValueRule where
  | none
  | required
  | optional
  deriving DecidableEq, Repr

structure OptionRule where
  letter : Option Char := none
  word : String := ""
  value : ValueRule := .none
  deriving DecidableEq, Repr

namespace OptionRule

def key (rule : OptionRule) : String :=
  if rule.word = "" then (rule.letter.map Char.toString).getD "" else rule.word

def flag (letter : Char) (word : String) : OptionRule :=
  { letter := some letter, word }

def plain (letter : Char) : OptionRule :=
  { letter := some letter }

def valued (letter : Char) (word : String) : OptionRule :=
  { letter := some letter, word, value := .required }

end OptionRule

/-- The arguments of a program: the options that were given, in order, with their values, and the
operands. -/
structure Arguments where
  options : List (String × Option String) := []
  operands : List String := []
  deriving DecidableEq, Repr, Inhabited

namespace Arguments

def has (args : Arguments) (key : String) : Bool :=
  args.options.any (·.1 == key)

def value? (args : Arguments) (key : String) : Option String :=
  (args.options.reverse.find? (·.1 == key)).bind Prod.snd

def lastOf? (args : Arguments) (keys : List String) : Option String :=
  (args.options.reverse.find? (keys.contains ·.1)).map Prod.fst

def addOption (args : Arguments) (key : String) (value : Option String) : Arguments :=
  { args with options := (key, value) :: args.options }

def addOperand (args : Arguments) (operand : String) : Arguments :=
  { args with operands := operand :: args.operands }

def candidates (rules : List OptionRule) (word : String) : List OptionRule :=
  match rules.find? (·.word == word) with
  | some rule => [rule]
  | none => rules.filter fun rule => rule.word != "" && rule.word.startsWith word

def readWord (rules : List OptionRule) (text : String) (rest : List String) :
    Except String (String × Option String × List String) :=
  let word := String.ofList (text.toList.takeWhile (· != '='))
  let value : Option String :=
    match text.toList.drop word.length with
    | '=' :: value => some (String.ofList value)
    | _ => none
  match candidates rules word with
  | [] => .error ("unrecognized option '--" ++ text ++ "'")
  | [rule] =>
    match rule.value, value, rest with
    | .none, some _, _ => .error ("option '--" ++ rule.word ++ "' doesn't allow an argument")
    | .required, none, [] => .error ("option '--" ++ rule.word ++ "' requires an argument")
    | .required, none, next :: rest => .ok (rule.key, some next, rest)
    | _, value, rest => .ok (rule.key, value, rest)
  | several =>
    .error ("option '--" ++ text ++ "' is ambiguous; possibilities:" ++
      String.join (several.map fun rule => " '--" ++ rule.word ++ "'"))

def readLetters (rules : List OptionRule) (rest : List String) :
    List Char → Except String (List (String × Option String) × List String)
  | [] => .ok ([], rest)
  | letter :: letters =>
    match rules.find? (·.letter == some letter) with
    | none => .error ("invalid option -- '" ++ letter.toString ++ "'")
    | some rule =>
      match rule.value with
      | .none => do
        let (later, rest) ← readLetters rules rest letters
        .ok ((rule.key, none) :: later, rest)
      | .optional =>
        .ok ([(rule.key, if letters = [] then none else some (String.ofList letters))], rest)
      | .required =>
        match letters, rest with
        | [], [] => .error ("option requires an argument -- '" ++ letter.toString ++ "'")
        | [], next :: rest => .ok ([(rule.key, some next)], rest)
        | letters, rest => .ok ([(rule.key, some (String.ofList letters))], rest)

/-- Tells the arguments apart, at most `fuel` of them. Operands may stand before options unless
`mixed` is false. -/
def read (rules : List OptionRule) (mixed : Bool) (fuel : Nat) (words : List String) :
    Except String Arguments :=
  match fuel, words with
  | 0, words => .ok { operands := words }
  | _, [] => .ok {}
  | fuel + 1, word :: rest =>
    match word.toList with
    | ['-', '-'] => .ok { operands := rest }
    | '-' :: '-' :: text => do
      let (key, value, rest) ← readWord rules (String.ofList text) rest
      return (← read rules mixed fuel rest).addOption key value
    | '-' :: letter :: letters => do
      let (options, rest) ← readLetters rules rest (letter :: letters)
      let later ← read rules mixed fuel rest
      return { later with options := options ++ later.options }
    | _ =>
      if mixed then do return (← read rules mixed fuel rest).addOperand word
      else .ok { operands := word :: rest }

end Arguments

namespace Invocation

def complain (invocation : Invocation) (message : String) : Task Unit :=
  Task.complain (invocation.name ++ ": " ++ message ++ "\n")

def complainOf (invocation : Invocation) (path : String) (error : FileError) : Task Unit :=
  invocation.complain (Text.quoteIfNeeded true path ++ ": " ++ error.message)

def refuse (invocation : Invocation) (code : UInt8) : Task UInt8 := do
  Task.complain ("Try '" ++ invocation.name ++ " --help' for more information.\n")
  return code

def misuse (invocation : Invocation) (code : UInt8) (message : String) : Task UInt8 := do
  invocation.complain message
  invocation.refuse code

/-- Tells the arguments apart and goes on with them; fails if they make no sense. -/
def withArguments (invocation : Invocation) (rules : List OptionRule) (code : UInt8)
    (go : Arguments → Task UInt8) : Task UInt8 :=
  match Arguments.read rules true (invocation.args.length + 1) invocation.args with
  | .error message => invocation.misuse code message
  | .ok args => go args

/-- Prints the output of a program at its end. Output that cannot be written is an error with a
code of its own. -/
def finish (invocation : Invocation) (output : String) (code failure : UInt8) : Task UInt8 := do
  if output = "" then return code
  match ← Task.write 1 output with
  | .ok () => return code
  | .error error =>
    invocation.complain ("write error: " ++ error.message)
    return failure

end Invocation

end JobShell
