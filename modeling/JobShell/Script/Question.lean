import JobShell.Program.Question

/-!
The question that the words of `test` ask in a script. An operator is a word by itself if it could
not be an operator where it stands.
-/

namespace JobShell.Script.Question

inductive Role where
  /-- Asks about the next word. -/
  | unary
  /-- Compares the words beside it. -/
  | binary
  | not
  | and
  | or
  | opening
  | closing
  deriving DecidableEq, Repr

def role? (word : String) : Option Role :=
  match word with
  | "!" => some .not
  | "-a" => some .and
  | "-o" => some .or
  | "(" => some .opening
  | ")" => some .closing
  | _ =>
    if ["=", "!=", "<", ">"].contains word || JobShell.Question.numeric.contains word ||
        JobShell.Question.filing.contains word then some .binary
    else
      match word.toList with
      | ['-', c] => if "rwxefdcbpugkstznhOGLS".toList.contains c then some .unary else none
      | _ => none

inductive Fault where
  | wrong (message : String)
  | illegalNumber (text : String)
  deriving DecidableEq, Repr

def Fault.message : Fault → String
  | wrong message => message
  | illegalNumber text => "Illegal number: " ++ text

structure Reading where
  view : Task.View
  words : Array String
  place : Nat

abbrev Reader := EStateM Fault Reading

def word? (ahead : Nat) : Reader (Option String) := do
  let r ← get
  return r.words[r.place + ahead]?

def advance (count : Nat) : Reader Unit :=
  modify fun r => { r with place := r.place + count }

/-- What the word so many places on is: none at the end, and no operator where it cannot be one. -/
def roleAt (ahead : Nat) : Reader (Option (Option Role)) := do
  match ← word? ahead with
  | none => return none
  | some word =>
    let next ← word? (ahead + 1)
    let isLast := next.isNone
    let found := role? word
    match found with
    | some .unary =>
      let comesBefore := (next.bind role?) == some .binary && (← word? (ahead + 2)).isSome
      return some (if isLast || comesBefore then none else found)
    | some .opening => return some (if isLast then none else found)
    | _ => return some found

def integer (word : String) : Reader Int :=
  let found := Number.read 10 word.toList
  if found.any && found.rest.all Number.isSpace &&
      Number.clampSigned found.value == found.value then pure found.value
  else throw (.illegalNumber word)

def ask (letter : Char) (word : String) : Reader Bool := do
  match letter with
  | 'z' => return word == ""
  | 'n' => return word != ""
  | 't' =>
    let _ ← integer word
    return false
  | _ => return JobShell.Question.askFile (← get).view letter word

def compare (operator a b : String) : Reader Bool := do
  if JobShell.Question.numeric.contains operator then
    return JobShell.Question.compareNumbers operator (← integer a) (← integer b)
  else if JobShell.Question.filing.contains operator then
    return operator == "-ef" && JobShell.Question.sameFile (← get).view a b
  else
    match operator with
    | "=" => return a == b
    | "!=" => return a != b
    | "<" => return a < b
    | _ => return b < a

def noArgument {α : Type} (operator : String) : Reader α :=
  throw (.wrong (operator ++ ": argument expected"))

def comparison : Reader Bool := do
  let a := (← word? 0).getD ""
  let operator := (← word? 1).getD ""
  advance 2
  match ← word? 0 with
  | some b => compare operator a b
  | none => noArgument operator

mutual

/-- Questions of which one has to be answered with yes, in at most `fuel` steps; `first` is what
their first word is. -/
def either (fuel : Nat) (first : Option (Option Role)) : Reader Bool := do
  match fuel with
  | 0 => return false
  | fuel + 1 =>
    let a ← both fuel first
    if (← roleAt 1) = some (some .or) then
      advance 2
      let b ← either fuel (← roleAt 0)
      return a || b
    else return a

def both (fuel : Nat) (first : Option (Option Role)) : Reader Bool := do
  match fuel with
  | 0 => return false
  | fuel + 1 =>
    let a ← negation fuel first
    if (← roleAt 1) = some (some .and) then
      advance 2
      let b ← both fuel (← roleAt 0)
      return a && b
    else return a

def negation (fuel : Nat) (first : Option (Option Role)) : Reader Bool := do
  match fuel with
  | 0 => return false
  | fuel + 1 =>
    if first = some (some .not) then
      let next ← roleAt 1
      if next.isSome then advance 1
      return !(← negation fuel next)
    else primary fuel first

def primary (fuel : Nat) (first : Option (Option Role)) : Reader Bool := do
  match fuel with
  | 0 => return false
  | fuel + 1 =>
    match first with
    | none => return false
    | some (some .opening) =>
      advance 1
      let next ← roleAt 0
      if next = some (some .closing) then return false
      let answer ← either fuel next
      advance 1
      if (← roleAt 0) ≠ some (some .closing) then throw (.wrong "closing paren expected")
      return answer
    | some (some .unary) =>
      let operator := (← word? 0).getD ""
      advance 1
      match ← word? 0 with
      | some word => ask (operator.toList.getLastD ' ') word
      | none => noArgument operator
    | _ =>
      if (← roleAt 1) = some (some .binary) then comparison
      else return (← word? 0).getD "" != ""

end

def whole (first : Option (Option Role)) : Reader Bool := do
  let r ← get
  let answer ← either (r.words.size * 8 + 8) first
  match ← word? 0, ← word? 1 with
  | some word, some _ =>
    throw (.wrong ((if word = "" then "" else word ++ ": ") ++ "unexpected operator"))
  | _, _ => return answer

def run (view : Task.View) (turned : Bool) (first : Reader (Option (Option Role)))
    (words : List String) : Except Fault Bool :=
  match (first >>= whole).run { view, words := words.toArray, place := 0 } with
  | .ok answer _ => .ok (answer != turned)
  | .error fault _ => .error fault

/-- The answer to the question that words ask, or why they ask none. Three or four words are first
looked at as a whole; `turned` says whether the answer is turned round. -/
def answer (view : Task.View) (turned : Bool) : List String → Except Fault Bool
  | [] => .ok turned
  | word :: rest =>
    let few := rest.length == 2 || rest.length == 3
    if rest.length = 2 ∧ (rest.head?.bind role?) = some .binary then
      run view turned (pure (some none)) (word :: rest)
    else if few && word == "(" && rest.getLast? == some ")" then
      run view turned (roleAt 0) rest.dropLast
    else if few && word == "!" then answer view (!turned) rest
    else run view turned (roleAt 0) (word :: rest)

end JobShell.Script.Question
