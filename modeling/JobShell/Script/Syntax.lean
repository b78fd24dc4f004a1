import JobShell.Text.Utf8

/-!
The script language: words with their parts, redirections and commands. A text has one character
for each byte.
-/

namespace JobShell.Script

/-- More steps than any script takes. -/
def limit : Nat := 1000000000

inductive ParameterUse where
  | plain
  /-- A word stands in for a parameter that is not set. -/
  | otherwise
  /-- A word stands in for a parameter that is set. -/
  | instead
  /-- It is an error if the parameter is not set. -/
  | required
  /-- A parameter that is not set is set to a word. -/
  | assigned
  /-- What matches a pattern is cut off at the start or the end, as little or as much as can be. -/
  | trimmed (atStart greedy : Bool)
  | length
  | invalid
  deriving DecidableEq, Repr

inductive OpenWay where
  | read
  | write
  /-- For writing, even if an existing file is not to be overwritten. -/
  | overwrite
  | append
  | both
  deriving DecidableEq, Repr

mutual

inductive Part where
  /-- A character that stands for itself unless it is special. -/
  | char (c : Char)
  | literal (c : Char)
  /-- A quotation mark: something is here, even if it is empty. -/
  | mark
  /-- A parameter; `empty` says whether an empty value counts as not set. -/
  | parameter (name : String) (use : ParameterUse) (empty : Bool) (word : List Part) (quoted : Bool)
  | output (command : Command) (quoted : Bool)
  /-- The value of an arithmetic expression. -/
  | arithmetic (text : List Part) (quoted : Bool)

inductive Redirection where
  | file (number : Nat) (way : OpenWay) (path : List Part)
  /-- To what is under another number. -/
  | copy (number : Nat) (source : Nat)
  | close (number : Nat)
  /-- To what is under the number that a word tells. -/
  | named (number : Nat) (source : List Part)
  | document (number : Nat) (document : Nat)

inductive Command where
  | nothing
  | simple (line : Nat) (assignments : List (String × List Part)) (words : List (List Part))
      (redirections : List Redirection)
  | redirected (line : Nat) (body : Command) (redirections : List Redirection)
  | subshell (line : Nat) (body : Command) (redirections : List Redirection)
  | background (line : Nat) (body : Command) (redirections : List Redirection)
  | pipeline (commands : List Command) (background : Bool)
  | negated (body : Command)
  | both (first second : Command)
  | either (first second : Command)
  | sequence (first second : Command)
  | choice (condition yes no : Command)
  /-- A loop that goes on while the success of its condition is as wanted. -/
  | loop (wanted : Bool) (condition body : Command)
  | forEach (line : Nat) (name : String) (words : List (List Part)) (body : Command)
  | select (line : Nat) (word : List Part) (cases : List (List (List Part) × Command))
  | function (line : Nat) (name : String) (body : Command)

end

instance : Inhabited Command := ⟨.nothing⟩

instance : Inhabited Part := ⟨.mark⟩

/-- A here-document: its text, with what is to be put in. -/
abbrev Document := List Part

def startsName (c : Char) : Bool :=
  c.isAlpha || c == '_'

def inName (c : Char) : Bool :=
  startsName c || c.isDigit

def isName (text : String) : Bool :=
  match text.toList with
  | [] => false
  | c :: rest => startsName c && rest.all inName

def isSpecialParameter (c : Char) : Bool :=
  c.isDigit || ['!', '#', '$', '*', '-', '?', '@'].contains c

def Part.char? : Part → Option Char
  | .char c => some c
  | _ => none

def Part.isQuoted : Part → Bool
  | .mark | .literal _ => true
  | _ => false

/-- The unquoted text of parts; none if there is anything else among them. -/
def plainText? (parts : List Part) : Option String :=
  (parts.mapM Part.char?).map String.ofList

def isQuoted (parts : List Part) : Bool :=
  parts.any Part.isQuoted

/-- A word as an assignment: the name and the parts of the value. -/
def assignment? (parts : List Part) : Option (String × List Part) :=
  let name := parts.takeWhile fun part => part.char?.any inName
  match plainText? name, parts.drop name.length with
  | some text, .char '=' :: value => if isName text then some (text, value) else none
  | _, _ => none

end JobShell.Script
