import JobShell.Script.Word

/-!
Reading tokens and commands. Commands are read one complete line at a time, so what comes before a
mistake is run.
-/

namespace JobShell.Script.Reader

def keywords : List String :=
  ["!", "case", "do", "done", "elif", "else", "esac", "fi", "for", "if", "in", "then", "until",
    "while", "\x7b", "\x7d"]

def specialBuiltins : List String :=
  [".", ":", "break", "continue", "eval", "exec", "exit", "export", "local", "readonly", "return",
    "set", "shift", "times", "trap", "unset"]

structure Expecting where
  keywords : Bool := false
  aliases : Bool := false
  /-- Whether line ends are skipped. -/
  newlines : Bool := false
  /-- Whether the word that ends a here-document is next. -/
  stop : Bool := false
  deriving DecidableEq, Repr

def Expecting.start : Expecting :=
  { keywords := true, aliases := true }

def Expecting.later : Expecting :=
  { keywords := true, aliases := true, newlines := true }

/-- A redirection operator after its first character. `number` is the number in front of it. -/
def operator (c : Char) (number : Option Nat) : Reader Operator := do
  let other := number.getD (if c = '>' then 1 else 0)
  let next ← peekJoined?
  let accept (operator : Operator) : Reader Operator := do
    let _ ← next?
    return operator
  match c, next with
  | '>', some '>' => accept (.file other .append)
  | '>', some '|' => accept (.file other .overwrite)
  | _, some '&' => accept (.copy other)
  | '<', some '>' => accept (.file other .both)
  | '<', some '<' =>
    let _ ← next?
    return .document other (← take '-')
  | '>', _ => return .file other .write
  | _, _ => return .file other .read

def skipComment (fuel : Nat) : Reader Unit := do
  match fuel with
  | 0 => return
  | fuel + 1 =>
    match ← peek? with
    | none | some '\n' => return
    | some _ =>
      let _ ← next?
      skipComment fuel

def doubled (c : Char) (one two : Token) : Reader Token := do
  return if ← take c then two else one

/-- The next token of the text; keywords are still words. -/
def token (inner : Inner) (stop : Bool) (fuel : Nat) : Reader Token := do
  match fuel with
  | 0 => return .atEnd
  | fuel + 1 =>
    let single (token : Token) : Reader Token := do
      let _ ← next?
      return token
    match ← peekJoined? with
    | none => return .atEnd
    | some ' ' | some '\t' =>
      let _ ← next?
      token inner stop fuel
    | some '#' =>
      skipComment limit
      token inner stop fuel
    | some '\n' => single .newline
    | some '&' => do
      let _ ← next?
      doubled '&' .ampersand .both
    | some '|' => do
      let _ ← next?
      doubled '|' .pipe .either
    | some ';' => do
      let _ ← next?
      doubled ';' .semicolon .endCase
    | some '(' => single .opening
    | some ')' => single .closing
    | some _ =>
      let parts := (← unquoted inner false stop limit []).reverse
      let number? : Option (Option Nat) :=
        match parts with
        | [] => some none
        | [.char c] => if c.isDigit then some (some (c.toNat - '0'.toNat)) else none
        | _ => none
      match number?, ← peekJoined? with
      | some number, some '<' =>
        let _ ← next?
        return .redirection (← operator '<' number)
      | some number, some '>' =>
        let _ ← next?
        return .redirection (← operator '>' number)
      | _, _ => return .word parts

def pushedOrNext (inner : Inner) (stop : Bool) : Reader Token := do
  match (← get).pushed with
  | some token =>
    modify fun source => { source with pushed := none }
    return token
  | none => token inner stop limit

def push (token : Token) : Reader Unit :=
  modify fun source => { source with pushed := some token }

def skipNewlines (inner : Inner) (fuel : Nat) (token : Token) : Reader Token := do
  match fuel, token with
  | fuel + 1, .newline =>
    readDocuments inner
    skipNewlines inner fuel (← pushedOrNext inner false)
  | _, token => return token

def openAlias (name : String) : Reader Bool := do
  let source ← get
  match source.aliases.get? name with
  | some text =>
    if source.opened.any (·.name == name) then return false
    else
      let goesOn := text.toList.getLast?.any fun c => c == ' ' || c == '\t'
      let opening := { name, after := source.rest.length, goesOn }
      set { source with
            rest := text.toList ++ source.rest, opened := opening :: source.opened }
      return true
  | none => return false

/-- Forgets the aliases whose text has been read. Tells whether one of them lets the next word be an
alias. -/
def closeAliases : Reader Bool := do
  let source ← get
  let (done, opened) := source.opened.partition fun opening => source.rest.length < opening.after
  set { source with opened }
  return done.any (·.goesOn)

/-- The next token as it is expected; at most `fuel` aliases are opened. -/
def next (inner : Inner) (expecting : Expecting) (fuel : Nat) : Reader Token := do
  match fuel with
  | 0 => return .atEnd
  | fuel + 1 =>
    let first ← pushedOrNext inner expecting.stop
    let found ← if expecting.newlines then skipNewlines inner limit first else pure first
    let follows ← closeAliases
    match found with
    | .word parts =>
      match plainText? parts with
      | none => return found
      | some text =>
        if expecting.keywords && keywords.contains text then return .keyword text
        else if expecting.aliases || follows then
          if ← openAlias text then next inner expecting fuel else return found
        else return found
    | _ => return found

def read (inner : Inner) (expecting : Expecting) : Reader Token :=
  next inner expecting limit

def unexpected {α : Type} (found : Token) (wanted : Option Token) : Reader α :=
  wrong (found.text ++ " unexpected" ++
    match wanted with
    | some token => " (expecting " ++ token.text ++ ")"
    | none => "")

def isKeyword (token : Token) (name : String) : Bool :=
  match token with
  | .keyword found => found == name
  | _ => false

def require (inner : Inner) (expecting : Expecting) (name : String) : Reader Unit := do
  let found ← read inner expecting
  if !isKeyword found name then unexpected found (some (.keyword name))

def endsList : Token → Bool
  | .atEnd | .closing | .endCase => true
  | .keyword name => ["do", "done", "elif", "else", "esac", "fi", "then", "\x7d"].contains name
  | _ => false

def target (inner : Inner) (operator : Operator) : Reader Redirection := do
  let stop := match operator with
    | .document _ _ => true
    | _ => false
  match ← read inner { stop } with
  | .word parts =>
    match operator with
    | .file number way => return .file number way parts
    | .copy number =>
      match parts with
      | [.char '-'] => return .close number
      | [.char c] =>
        return if c.isDigit then .copy number (c.toNat - '0'.toNat) else .named number parts
      | _ => return .named number parts
    | .document number tabs =>
      let source ← get
      let text := parts.filterMap fun part =>
        match part with
        | .char c | .literal c => some c
        | _ => none
      let document : Pending :=
        { number := source.nextDocument, stop := text, quoted := isQuoted parts, tabs }
      set
        { source with
          pending := source.pending ++ [document], nextDocument := source.nextDocument + 1 }
      return .document number document.number
  | found => unexpected found none

def redirections (inner : Inner) (expecting : Expecting) (fuel : Nat) :
    Reader (List Redirection) := do
  match fuel with
  | 0 => return []
  | fuel + 1 =>
    match ← read inner expecting with
    | .redirection operator =>
      let first ← target inner operator
      return first :: (← redirections inner {} fuel)
    | other =>
      push other
      return []

def words (inner : Inner) (fuel : Nat) (done : List (List Part)) :
    Reader (List (List Part) × Token) := do
  match fuel with
  | 0 => return (done.reverse, .atEnd)
  | fuel + 1 =>
    match ← read inner {} with
    | .word parts => words inner fuel (parts :: done)
    | other => return (done.reverse, other)

structure Nested where
  inner : Inner
  list : (mayBeEmpty : Bool) → Reader Command
  command : Reader Command

structure Simple where
  assignments : List (String × List Part) := []
  words : List (List Part) := []
  redirections : List Redirection := []

def Simple.command (simple : Simple) (line : Nat) : Command :=
  .simple line simple.assignments.reverse simple.words.reverse simple.redirections.reverse

def function (nested : Nested) (parts : List Part) : Reader Command := do
  match ← read nested.inner {} with
  | .closing =>
    match plainText? parts with
    | some name =>
      if isName name && !specialBuiltins.contains name then
        let line := (← get).line
        let first ← read nested.inner .later
        push first
        return .function line name (← nested.command)
      else wrong "Bad function name"
    | none => wrong "Bad function name"
  | found => unexpected found (some .closing)

/-- A simple command or a function; at most `fuel` words of it. -/
def simple (nested : Nested) (line fuel : Nat) (done : Simple) : Reader Command := do
  match fuel with
  | 0 => return done.command line
  | fuel + 1 =>
    match ← read nested.inner { aliases := done.words.isEmpty } with
    | .word parts =>
      match if done.words.isEmpty then assignment? parts else none with
      | some assignment =>
        simple nested line fuel { done with assignments := assignment :: done.assignments }
      | none => simple nested line fuel { done with words := parts :: done.words }
    | .redirection operator =>
      let redirection ← target nested.inner operator
      simple nested line fuel { done with redirections := redirection :: done.redirections }
    | .opening =>
      match done with
      | { assignments := [], words := [parts], redirections := [] } => function nested parts
      | _ =>
        push .opening
        return done.command line
    | other =>
      push other
      return done.command line

/-- What comes after a condition: the commands if it holds, and what else. At most `fuel` further
conditions are read. -/
def choice (nested : Nested) (fuel : Nat) : Reader Command := do
  match fuel with
  | 0 => return .nothing
  | fuel + 1 =>
    let condition ← nested.list false
    require nested.inner {} "then"
    let yes ← nested.list false
    let found ← read nested.inner {}
    if isKeyword found "elif" then return .choice condition yes (← choice nested fuel)
    else if isKeyword found "else" then return .choice condition yes (← nested.list false)
    else
      push found
      return .choice condition yes .nothing

def loopBody (nested : Nested) (expecting : Expecting) : Reader Command := do
  require nested.inner expecting "do"
  let body ← nested.list false
  require nested.inner {} "done"
  return body

def forEach (nested : Nested) (line : Nat) : Reader Command := do
  let name? := match ← read nested.inner {} with
    | .word parts => (plainText? parts).filter isName
    | _ => none
  match name? with
  | none => wrong "Bad for loop variable"
  | some name =>
    let found ← read nested.inner .later
    let items ←
      if isKeyword found "in" then
        let (items, after) ← words nested.inner limit []
        match after with
        | .newline | .semicolon => pure items
        | _ => unexpected after none
      else
        match found with
        | .semicolon => pure ()
        | _ => push found
        pure [[Part.parameter "@" .plain false [] true]]
    return .forEach line name items (← loopBody nested .later)

def patterns (inner : Inner) (fuel : Nat) (first : Token) : Reader (List (List Part)) := do
  match fuel with
  | 0 => return []
  | fuel + 1 =>
    match first with
    | .word parts =>
      match ← read inner {} with
      | .pipe => return parts :: (← patterns inner fuel (← read inner {}))
      | .closing => return [parts]
      | found => unexpected found (some .closing)
    | .keyword name =>
      patterns inner fuel (.word (name.toList.map Part.char))
    | found => unexpected found (some .closing)

def cases (nested : Nested) (fuel : Nat) : Reader (List (List (List Part) × Command)) := do
  match fuel with
  | 0 => return []
  | fuel + 1 =>
    let expecting : Expecting := { keywords := true, newlines := true }
    let found ← read nested.inner expecting
    if isKeyword found "esac" then return []
    else
      let first ← match found with
        | .opening => read nested.inner {}
        | _ => pure found
      let alternatives ← patterns nested.inner limit first
      let body ← nested.list true
      let after ← read nested.inner expecting
      if isKeyword after "esac" then return [(alternatives, body)]
      else
        match after with
        | .endCase => return (alternatives, body) :: (← cases nested fuel)
        | _ => unexpected after (some .endCase)

def select (nested : Nested) (line : Nat) : Reader Command := do
  match ← read nested.inner {} with
  | .word parts =>
    require nested.inner .later "in"
    return .select line parts (← cases nested limit)
  | found => unexpected found (some (.word []))

def command (nested : Nested) : Reader Command := do
  let first ← read nested.inner {}
  let line := (← get).line
  let redirect (compound : Command) : Reader Command := do
    match ← redirections nested.inner .start limit with
    | [] => return compound
    | redirections =>
      match compound with
      | .subshell line body _ => return .subshell line body redirections
      | _ => return .redirected line compound redirections
  match first with
  | .word _ | .redirection _ =>
    push first
    simple nested line limit {}
  | .opening =>
    let body ← nested.list false
    match ← read nested.inner {} with
    | .closing => redirect (.subshell line body [])
    | found => unexpected found (some .closing)
  | .keyword "if" =>
    let result ← choice nested limit
    require nested.inner {} "fi"
    redirect result
  | .keyword "while" =>
    let condition ← nested.list false
    redirect (.loop true condition (← loopBody nested {}))
  | .keyword "until" =>
    let condition ← nested.list false
    redirect (.loop false condition (← loopBody nested {}))
  | .keyword "for" => redirect (← forEach nested line)
  | .keyword "case" => redirect (← select nested line)
  | .keyword "\x7b" =>
    let body ← nested.list false
    require nested.inner {} "\x7d"
    redirect body
  | found => unexpected found none

def piped (nested : Nested) (fuel : Nat) : Reader (List Command) := do
  match fuel with
  | 0 => return []
  | fuel + 1 =>
    match ← read nested.inner {} with
    | .pipe =>
      let first ← read nested.inner .later
      push first
      let next ← nested.command
      return next :: (← piped nested fuel)
    | other =>
      push other
      return []

def pipeline (nested : Nested) : Reader Command := do
  let first ← read nested.inner {}
  let negated := isKeyword first "!"
  if negated then
    let first ← read nested.inner .start
    push first
  else push first
  let body ← nested.command
  let rest ← piped nested limit
  let whole := if rest.isEmpty then body else Command.pipeline (body :: rest) false
  return if negated then .negated whole else whole

def conditional (nested : Nested) (fuel : Nat) (first : Command) : Reader Command := do
  match fuel with
  | 0 => return first
  | fuel + 1 =>
    let found ← read nested.inner {}
    let join (combine : Command → Command → Command) : Reader Command := do
      let next ← read nested.inner .later
      push next
      conditional nested fuel (combine first (← pipeline nested))
    match found with
    | .both => join .both
    | .either => join .either
    | other =>
      push other
      return first

def inBackground (line : Nat) : Command → Command
  | .pipeline commands _ => .pipeline commands true
  | .redirected line body redirections => .background line body redirections
  | command => .background line command []

def andThen (done : Option Command) (next : Command) : Command :=
  match done with
  | none => next
  | some done => .sequence done next

/-- A list of commands: a complete line of them, or all up to what ends the list. `mayEnd` says
whether the list may end here. -/
def list (nested : Nested) (wholeLine : Bool) (fuel : Nat) (mayEnd : Bool)
    (done : Option Command) : Reader (Option Command) := do
  match fuel with
  | 0 => return done
  | fuel + 1 =>
    let first ← read nested.inner { Expecting.start with newlines := !wholeLine }
    match first with
    | .newline =>
      readDocuments nested.inner
      return some (done.getD .nothing)
    | .atEnd =>
      readDocuments nested.inner
      push .atEnd
      return done
    | _ =>
      push first
      if mayEnd && !wholeLine && endsList first then return done
      let line := (← get).line
      let command ← conditional nested limit (← pipeline nested)
      let after ← read nested.inner {}
      let whole := fun command => some (andThen done command)
      match after with
      | .ampersand =>
        list nested wholeLine fuel true (whole (inBackground line command))
      | .semicolon => list nested wholeLine fuel true (whole command)
      | .newline =>
        push .newline
        list nested wholeLine fuel true (whole command)
      | .atEnd =>
        readDocuments nested.inner
        push .atEnd
        return whole command
      | other =>
        if wholeLine then unexpected other none
        push other
        return whole command

def nested : Nat → Nested
  | 0 =>
    let tooDeep {α : Type} : Reader α := wrong "nested too deeply"
    { inner := { parts := fun _ => tooDeep, commands := fun _ => tooDeep }
      list := fun _ => tooDeep
      command := tooDeep }
  | depth + 1 =>
    let inner : Inner :=
      { parts := fun region => parts (nested depth).inner region
        commands := fun closed => do
          let below := nested depth
          let body ← list below false limit true none
          if closed then
            match ← read below.inner {} with
            | .closing => return body.getD .nothing
            | found => unexpected found (some .closing)
          else return body.getD .nothing }
    { inner
      list := fun mayBeEmpty => do
        return (← list { nested depth with inner } false limit mayBeEmpty none).getD .nothing
      command := fun source => command { nested depth with inner } source }

def maxDepth : Nat := 1000000

/-- The next complete line of commands; none at the end. -/
def line : Reader (Option Command) := do
  modify fun source => { source with pushed := none, pending := [] }
  list (nested maxDepth) true limit false none

end JobShell.Script.Reader
