import JobShell.Program.Question

/-!
The program `test`, also called `[`, which answers a question with its exit code. How the words are
read depends first on how many there are.
-/

namespace JobShell.Test

open Text (quotePlain)

structure Reading where
  view : Task.View
  last : String
  words : List String

/-- A step of reading; one that fails says why the words make no sense. -/
abbrev Reader := EStateM String Reading

/-- The next word. One that is missing is an error. -/
def next : Reader String := do
  let r ← get
  match r.words with
  | [] => throw ("missing argument after " ++ quotePlain r.last)
  | word :: rest =>
    set { r with words := rest }
    return word

def operators : List String :=
  ["=", "==", "!=", "<", ">"] ++ Question.numeric ++ Question.filing

def integer (word : String) : Reader Int := do
  let found := Number.read 10 word.toList
  if found.any && found.rest.all fun c => c == ' ' || c == '\t' then return found.value
  else throw ("invalid integer " ++ quotePlain word)

/-- An operand of a numeric comparison: a number, or the length of the word after `-l`. -/
def numberOrLength (word : String) (length : Bool) : Reader Int :=
  if length then pure word.length else integer word

def binary : Reader Bool := do
  let view := (← get).view
  let first ← next
  let leftLength := first == "-l" && (← get).words.length > 2
  let a ← if leftLength then next else pure first
  let operator ← next
  let second ← next
  let rightLength := second == "-l" && (← get).words != []
  let b ← if rightLength then next else pure second
  if Question.numeric.contains operator then
    return Question.compareNumbers operator (← numberOrLength a leftLength)
      (← numberOrLength b rightLength)
  else if Question.filing.contains operator then return Question.compareFiles view operator a b
  else
    match operator with
    | "!=" => return a != b
    | "<" => return a < b
    | ">" => return b < a
    | _ => return a == b

def letters : List Char := "bcdefghkLnNOGprsStuvwxz".toList

def unary : Reader Bool := do
  let r ← get
  match r.words with
  | operator :: rest =>
    match operator.toList with
    | ['-', letter] =>
      if !letters.contains letter then throw (quotePlain operator ++ ": unary operator expected")
      set { r with words := rest }
      let word ← next
      match letter with
      | 'n' => return word != ""
      | 'z' => return word == ""
      | 't' =>
        let _ ← integer word
        return false
      | letter => return Question.askFile r.view letter word
    | _ => throw (quotePlain operator ++ ": unary operator expected")
  | [] => throw ("missing argument after " ++ quotePlain r.last)

def isSwitch (word : String) : Bool :=
  match word.toList with
  | ['-', _] => true
  | _ => false

/-- One word: the answer is yes if it is not empty. -/
def one : Reader Bool := do
  return (← next) != ""

def two : Reader Bool := do
  let r ← get
  match r.words with
  | "!" :: rest =>
    set { r with words := rest }
    return !(← one)
  | word :: _ =>
    if isSwitch word then unary else throw ("missing argument after " ++ quotePlain r.last)
  | [] => throw ("missing argument after " ++ quotePlain r.last)

mutual

def question (fuel count : Nat) : Reader Bool := do
  match fuel with
  | 0 => return false
  | fuel + 1 =>
    let r ← get
    match count, r.words with
    | 1, _ => one
    | 2, _ => two
    | 3, _ => three fuel
    | 4, "!" :: rest =>
      set { r with words := rest }
      return !(← three fuel)
    | 4, "(" :: rest =>
      if r.words[3]? = some ")" then
        set { r with words := rest }
        let answer ← two
        let _ ← next
        return answer
      else either fuel
    | _, _ => either fuel

def three (fuel : Nat) : Reader Bool := do
  match fuel with
  | 0 => return false
  | fuel + 1 =>
    let r ← get
    let operator := r.words[1]?.getD ""
    if operators.contains operator then binary
    else
      match r.words with
      | "!" :: rest =>
        set { r with words := rest }
        return !(← two)
      | "(" :: rest =>
        if r.words[2]? = some ")" then
          set { r with words := rest }
          let answer ← one
          let _ ← next
          return answer
        else if operator = "-a" ∨ operator = "-o" then either fuel
        else throw (quotePlain operator ++ ": binary operator expected")
      | _ =>
        if operator = "-a" ∨ operator = "-o" then either fuel
        else throw (quotePlain operator ++ ": binary operator expected")

def either (fuel : Nat) : Reader Bool := do
  match fuel with
  | 0 => return false
  | fuel + 1 =>
    let first ← both fuel
    let r ← get
    match r.words with
    | "-o" :: rest =>
      set { r with words := rest }
      let second ← either fuel
      return first || second
    | _ => return first

def both (fuel : Nat) : Reader Bool := do
  match fuel with
  | 0 => return false
  | fuel + 1 =>
    let first ← term fuel
    let r ← get
    match r.words with
    | "-a" :: rest =>
      set { r with words := rest }
      let second ← both fuel
      return first && second
    | _ => return first

/-- A question that is not joined: one that is turned round, one in brackets, a comparison, a
switch or a word. -/
def term (fuel : Nat) : Reader Bool := do
  match fuel with
  | 0 => return false
  | fuel + 1 =>
    let r ← get
    match r.words with
    | [] => throw ("missing argument after " ++ quotePlain r.last)
    | "!" :: rest =>
      if rest = [] then throw ("missing argument after " ++ quotePlain r.last)
      set { r with words := rest }
      return !(← term fuel)
    | "(" :: rest =>
      if rest = [] then throw ("missing argument after " ++ quotePlain r.last)
      set { r with words := rest }
      let inner := (rest.tail.takeWhile (· != ")")).length + 1
      let count := if inner < rest.length ∧ inner ≤ 4 then inner else rest.length
      let answer ← question fuel count
      let after ← get
      match after.words with
      | [] => throw (quotePlain ")" ++ " expected")
      | ")" :: rest =>
        set { after with words := rest }
        return answer
      | word :: _ => throw (quotePlain ")" ++ " expected, found " ++ quotePlain word)
    | word :: rest =>
      if word = "-l" ∧ rest.length ≥ 3 ∧ operators.contains (rest[1]?.getD "") then binary
      else if rest.length ≥ 2 ∧ operators.contains (rest.headD "") then binary
      else if isSwitch word then unary
      else one

end

def ask (view : Task.View) (words : List String) : Except String Bool :=
  if words = [] then .ok false
  else
    let start : Reading := { view, last := words.getLast?.getD "", words }
    match (question (words.length * 8 + 8) words.length).run start with
    | .error message _ => .error message
    | .ok answer r =>
      match r.words with
      | [] => .ok answer
      | word :: _ => .error ("extra argument " ++ quotePlain word)

def codeOf (answer : Bool) : UInt8 :=
  if answer then 0 else 1

/-- Answers a question; 2 if there is none. -/
def answer (invocation : Invocation) (words : List String) : Task UInt8 := do
  match ← Task.look fun view => ask view words with
  | .ok answer => return codeOf answer
  | .error message =>
    invocation.complain message
    return 2

def test : Utility := fun invocation =>
  answer invocation invocation.args

def bracket : Utility := fun invocation =>
  if invocation.args.getLast? = some "]" then answer invocation invocation.args.dropLast
  else do
    invocation.complain ("missing " ++ quotePlain "]")
    return 2

end JobShell.Test
