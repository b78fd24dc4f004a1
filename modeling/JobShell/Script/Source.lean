import JobShell.Environment
import JobShell.Script.Syntax

/-!
The text of a script while it is read. More of it may come later: where the end of what there is
would matter, reading stops and asks for more.
-/

namespace JobShell.Script

inductive Operator where
  | file (number : Nat) (way : OpenWay)
  /-- Copies an open file from another number. -/
  | copy (number : Nat)
  /-- A here-document; `tabs` says whether tabs at the start of its lines are dropped. -/
  | document (number : Nat) (tabs : Bool)
  deriving DecidableEq, Repr

inductive Token where
  | atEnd
  | newline
  | semicolon
  | ampersand
  | both
  | either
  | pipe
  | opening
  | closing
  | endCase
  | redirection (operator : Operator)
  | word (parts : List Part)
  | keyword (name : String)

def Token.text : Token → String
  | atEnd => "end of file"
  | newline => "newline"
  | semicolon => "\";\""
  | ampersand => "\"&\""
  | both => "\"&&\""
  | either => "\"||\""
  | pipe => "\"|\""
  | opening => "\"(\""
  | closing => "\")\""
  | endCase => "\";;\""
  | redirection _ => "redirection"
  | word _ => "word"
  | keyword name => "\"" ++ name ++ "\""

structure Pending where
  number : Nat
  stop : List Char
  /-- Whether nothing is put into it. -/
  quoted : Bool
  tabs : Bool
  deriving DecidableEq, Repr

structure Opened where
  name : String
  /-- How much text comes after it. -/
  after : Nat
  /-- Whether its text ends in a blank, so that the next word may be an alias as well. -/
  goesOn : Bool
  deriving DecidableEq, Repr

structure Source where
  rest : List Char
  line : Nat := 1
  /-- Whether more text may come. -/
  more : Bool := false
  /-- A token that was read and is yet to be used. -/
  pushed : Option Token := none
  pending : List Pending := []
  /-- The here-documents that were read, by number. -/
  documents : List (Nat × Document) := []
  nextDocument : Nat := 0
  aliases : Variables := []
  /-- The aliases that are being read. -/
  opened : List Opened := []

inductive Stop where
  | wantsMore
  | wrong (line : Nat) (message : String)
  deriving DecidableEq, Repr

abbrev Reader := StateT Source (Except Stop)

namespace Reader

def wrong {α : Type} (message : String) : Reader α := do
  throw (.wrong (← get).line ("Syntax error: " ++ message))

def peek? : Reader (Option Char) := do
  let source ← get
  match source.rest with
  | c :: _ => return some c
  | [] => if source.more then throw .wantsMore else return none

/-- Drops characters; none of them is a line end. -/
def drop (count : Nat) : Reader Unit :=
  modify fun source => { source with rest := source.rest.drop count }

def next? : Reader (Option Char) := do
  let c ← peek?
  modify fun source =>
    { source with
      rest := source.rest.tail
      line := if c = some '\n' then source.line + 1 else source.line }
  return c

def skipJoins (fuel : Nat) : Reader Unit := do
  match fuel with
  | 0 => return
  | fuel + 1 =>
    match (← get).rest with
    | '\\' :: '\n' :: rest =>
      modify fun source => { source with rest, line := source.line + 1 }
      skipJoins fuel
    | ['\\'] => if (← get).more then throw .wantsMore
    | _ => return

def peekJoined? : Reader (Option Char) := do
  skipJoins limit
  peek?

def nextJoined? : Reader (Option Char) := do
  skipJoins limit
  next?

def take (c : Char) : Reader Bool := do
  if (← peekJoined?) = some c then
    let _ ← next?
    return true
  else return false

/-- The characters, after joined lines, as far as they are as wanted; at most `fuel` of them. -/
def takeWhile (wanted : Char → Bool) (fuel : Nat) : Reader (List Char) := do
  match fuel with
  | 0 => return []
  | fuel + 1 =>
    match ← peekJoined? with
    | some c =>
      if wanted c then
        let _ ← next?
        return c :: (← takeWhile wanted fuel)
      else return []
    | none => return []

end Reader

end JobShell.Script
