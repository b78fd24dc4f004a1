import JobShell.Script.Source

/-!
Reading words: quotes, parameters, commands whose output is put in, and arithmetic.
-/

namespace JobShell.Script.Reader

inductive Region where
  /-- In braces after the name of a parameter. -/
  | braces
  | quotes
  /-- In braces that are in double quotes, or in something like them. -/
  | quotedBraces
  /-- In a here-document, up to the line that ends it. -/
  | document (stop : List Char) (tabs : Bool)
  | arithmetic
  deriving DecidableEq, Repr

structure Inner where
  parts : Region → Reader (List Part)
  /-- Commands, which a bracket ends if `closed` says so. -/
  commands : (closed : Bool) → Reader Command

def character (quoted : Bool) (c : Char) : Part :=
  if quoted then .literal c else .char c

def singleQuoted (fuel : Nat) (done : List Part) : Reader (List Part) := do
  match fuel with
  | 0 => return done.reverse
  | fuel + 1 =>
    match ← next? with
    | none => wrong "Unterminated quoted string"
    | some '\'' => return (.mark :: done).reverse
    | some c => singleQuoted fuel (.literal c :: done)

/-- What stands between backquotes, at most `fuel` characters. A backslash keeps its meaning for
later except before a few characters. -/
def backquoted (quoted : Bool) (fuel : Nat) (done : List Char) : Reader (List Char) := do
  match fuel with
  | 0 => return done.reverse
  | fuel + 1 =>
    match ← nextJoined? with
    | none => wrong "EOF in backquote substitution"
    | some '\x60' => return done.reverse
    | some '\\' =>
      match ← nextJoined? with
      | none => wrong "EOF in backquote substitution"
      | some c =>
        if c = '\\' ∨ c = '\x60' ∨ c = '$' ∨ (c = '"' ∧ quoted) then
          backquoted quoted fuel (c :: done)
        else backquoted quoted fuel (c :: '\\' :: done)
    | some c => backquoted quoted fuel (c :: done)

def enclosed (commands : Reader Command) : Reader Command := do
  let outer ← get
  set { outer with pushed := none, pending := [] }
  let command ← commands
  modify fun source => { source with pushed := outer.pushed, pending := outer.pending }
  return command

def backquotes (inner : Inner) (quoted : Bool) : Reader Part := do
  let text ← backquoted quoted limit []
  let outer ← get
  set { outer with rest := text, line := 1, more := false, pushed := none, pending := [] }
  let command ← inner.commands false
  modify fun source =>
    { outer with documents := source.documents, nextDocument := source.nextDocument }
  return .output command quoted

def parameterUse : Reader (ParameterUse × Bool) := do
  let word? (c : Option Char) : Option ParameterUse :=
    match c with
    | some '-' => some .otherwise
    | some '+' => some .instead
    | some '?' => some .required
    | some '=' => some .assigned
    | _ => none
  let c ← peekJoined?
  match c with
  | some '}' => return (.plain, false)
  | some ':' =>
    let _ ← next?
    match word? (← peekJoined?) with
    | some use =>
      let _ ← next?
      return (use, true)
    | none => return (.invalid, true)
  | some '%' =>
    let _ ← next?
    return (.trimmed false (← take '%'), false)
  | some '#' =>
    let _ ← next?
    return (.trimmed true (← take '#'), false)
  | c =>
    match word? c with
    | some use =>
      let _ ← next?
      return (use, false)
    | none => return (.invalid, false)

def parameterName? : Reader (Option String) := do
  match ← peekJoined? with
  | some c =>
    if startsName c then return some (String.ofList (← takeWhile inName limit))
    else if c.isDigit then return some (String.ofList (← takeWhile Char.isDigit limit))
    else if isSpecialParameter c then
      let _ ← next?
      return some c.toString
    else return none
  | none => return none

def braced (inner : Inner) (quoted : Bool) : Reader Part := do
  let finish (name : String) (use : ParameterUse) (empty : Bool) : Reader Part := do
    let region : Region :=
      match use, quoted with
      | .trimmed _ _, _ => .braces
      | _, true => .quotedBraces
      | _, false => .braces
    return .parameter name use empty (← inner.parts region) quoted
  let before ← get
  let wantsLength ← do
    if ← take '#' then
      match ← peekJoined? with
      | some c =>
        if inName c then pure true
        else if isSpecialParameter c then
          let _ ← next?
          let closed := (← peekJoined?) = some '}'
          modify fun source => { source with rest := c :: source.rest }
          pure closed
        else pure false
      | none => pure false
    else pure false
  if wantsLength then
    match ← parameterName? with
    | some name => finish name (if (← peekJoined?) = some '}' then .length else .invalid) false
    | none => finish "" .invalid false
  else
    set before
    match ← parameterName? with
    | none => finish "" .invalid false
    | some name =>
      let (use, empty) ← parameterUse
      if use = .plain then
        let _ ← next?
        return .parameter name .plain false [] quoted
      else finish name use empty

def dollar (inner : Inner) (quoted : Bool) : Reader Part := do
  match ← peekJoined? with
  | some '(' =>
    let _ ← next?
    if ← take '(' then return .arithmetic (← inner.parts .arithmetic) quoted
    else return .output (← enclosed (inner.commands true)) quoted
  | some '{' =>
    let _ ← next?
    braced inner quoted
  | some c =>
    if startsName c then
      return .parameter (String.ofList (← takeWhile inName limit)) .plain false [] quoted
    else if isSpecialParameter c then
      let _ ← next?
      return .parameter c.toString .plain false [] quoted
    else return character quoted '$'
  | none => return character quoted '$'

def endsWord (c : Char) : Bool :=
  ['\n', ' ', '\t', '&', ';', '|', '<', '>', '(', ')'].contains c

/-- Parts that have been read between double quotes. Positional parameters that stand alone there
can come to nothing at all. -/
def quotation (parts : List Part) : List Part :=
  match parts with
  | [.parameter "@" .plain _ _ _] => parts
  | _ => .mark :: parts ++ [.mark]

/-- Parts without quotes around them, in reverse: up to the end of the word or, in braces, to the
closing one. In the word that ends a here-document only quotes are special. -/
def unquoted (inner : Inner) (braces stop : Bool) (fuel : Nat) (done : List Part) :
    Reader (List Part) := do
  match fuel with
  | 0 => return done
  | fuel + 1 =>
    match ← peekJoined? with
    | none => if braces then wrong "Missing '\x7d'" else return done
    | some c =>
      if !braces && endsWord c then return done
      let _ ← next?
      match c with
      | '\\' =>
        match ← next? with
        | none => return .literal '\\' :: done
        | some c => unquoted inner braces stop fuel (.literal c :: done)
      | '\'' => unquoted inner braces stop fuel ((← singleQuoted limit [.mark]).reverse ++ done)
      | '"' =>
        unquoted inner braces stop fuel ((quotation (← inner.parts .quotes)).reverse ++ done)
      | '$' =>
        if stop then unquoted inner braces stop fuel (.char '$' :: done)
        else unquoted inner braces stop fuel ((← dollar inner false) :: done)
      | '\x60' =>
        if stop then unquoted inner braces stop fuel (.char c :: done)
        else unquoted inner braces stop fuel ((← backquotes inner false) :: done)
      | '}' =>
        if braces then return done else unquoted inner braces stop fuel (.char '}' :: done)
      | c => unquoted inner braces stop fuel (.char c :: done)

/-- What a backslash that was read stands for, in reverse, where it is special only before some
characters. -/
def escape (special : Char → Bool) : Reader (List Part) := do
  match ← next? with
  | none => return [.literal '\\']
  | some c => return if special c then [.literal c] else [.literal c, .literal '\\']

def escapable (c : Char) : Bool :=
  ['\\', '\x60', '$', '"'].contains c

def doubleQuoted (inner : Inner) (fuel : Nat) (done : List Part) : Reader (List Part) := do
  match fuel with
  | 0 => return done
  | fuel + 1 =>
    match ← nextJoined? with
    | none => wrong "Unterminated quoted string"
    | some '"' => return done
    | some '\\' => doubleQuoted inner fuel ((← escape escapable) ++ done)
    | some '$' => doubleQuoted inner fuel ((← dollar inner true) :: done)
    | some '\x60' => doubleQuoted inner fuel ((← backquotes inner true) :: done)
    | some c => doubleQuoted inner fuel (.literal c :: done)

/-- Parts in braces between double quotes, in reverse. Double quotes there only hide braces;
`hidden` says whether they do. -/
def bracesInQuotes (inner : Inner) (hidden : Bool) (fuel : Nat) (done : List Part) :
    Reader (List Part) := do
  match fuel with
  | 0 => return done
  | fuel + 1 =>
    match ← nextJoined? with
    | none => wrong "Unterminated quoted string"
    | some '"' => bracesInQuotes inner (!hidden) fuel (.mark :: done)
    | some '\\' =>
      bracesInQuotes inner hidden fuel ((← escape fun c => escapable c || c == '}') ++ done)
    | some '$' => bracesInQuotes inner hidden fuel ((← dollar inner true) :: done)
    | some '\x60' => bracesInQuotes inner hidden fuel ((← backquotes inner true) :: done)
    | some '}' =>
      if hidden then bracesInQuotes inner hidden fuel (.literal '}' :: done) else return done
    | some c => bracesInQuotes inner hidden fuel (.literal c :: done)

/-- The text of an arithmetic expression, in reverse, up to two brackets that close it; `depth` is
how many brackets are open. -/
def expression (inner : Inner) (depth fuel : Nat) (done : List Part) : Reader (List Part) := do
  match fuel with
  | 0 => return done
  | fuel + 1 =>
    match ← nextJoined? with
    | none => wrong "Missing '))'"
    | some '\\' => expression inner depth fuel ((← escape escapable) ++ done)
    | some '$' => expression inner depth fuel ((← dollar inner true) :: done)
    | some '\x60' => expression inner depth fuel ((← backquotes inner true) :: done)
    | some '(' => expression inner (depth + 1) fuel (.literal '(' :: done)
    | some ')' =>
      match depth with
      | depth + 1 => expression inner depth fuel (.literal ')' :: done)
      | 0 =>
        if ← take ')' then return done
        else expression inner 0 fuel (.literal ')' :: done)
    | some c => expression inner depth fuel (.literal c :: done)

def endsDocument (stop : List Char) (tabs : Bool) : Reader Bool := do
  if tabs then
    let _ ← takeWhile (· == '\t') limit
  let source ← get
  let line := source.rest.takeWhile (· != '\n')
  let cut := line.length == source.rest.length
  if cut && source.more then throw .wantsMore
  if line = [] && cut then return true
  if line = stop then
    set
      { source with
        rest := source.rest.drop (line.length + 1)
        line := if cut then source.line else source.line + 1 }
    return true
  else return false

/-- Something that is put into a here-document. Quotes in a pattern there do not hold for what is put
into the pattern. -/
def inDocument : Part → Part
  | .parameter name (.trimmed atStart greedy) empty word quoted =>
    let word := word.map fun part =>
      match part with
      | .parameter name use empty word _ => .parameter name use empty word false
      | .output command _ => .output command false
      | .arithmetic text _ => .arithmetic text false
      | part => part
    .parameter name (.trimmed atStart greedy) empty word quoted
  | part => part

def documentText (inner : Inner) (stop : List Char) (tabs : Bool) (fuel : Nat)
    (lineStart : Bool) (done : List Part) : Reader (List Part) := do
  match fuel with
  | 0 => return done
  | fuel + 1 =>
    let ended ← if lineStart then endsDocument stop tabs else pure false
    if ended then return done
    else
      match ← nextJoined? with
      | none => return done
      | some '\n' => documentText inner stop tabs fuel true (.literal '\n' :: done)
      | some '\\' =>
        documentText inner stop tabs fuel false
          ((← escape fun c => escapable c && c != '"') ++ done)
      | some '$' =>
        documentText inner stop tabs fuel false (inDocument (← dollar inner true) :: done)
      | some '\x60' => documentText inner stop tabs fuel false ((← backquotes inner true) :: done)
      | some c => documentText inner stop tabs fuel false (.literal c :: done)

def documentLines (stop : List Char) (tabs : Bool) (fuel : Nat) (done : List Part) :
    Reader (List Part) := do
  match fuel with
  | 0 => return done
  | fuel + 1 =>
    if ← endsDocument stop tabs then return done
    else
      let source ← get
      let line := source.rest.takeWhile (· != '\n')
      set { source with rest := source.rest.drop line.length }
      let done := (line.map Part.literal).reverse ++ done
      match ← next? with
      | none => return done
      | some _ => documentLines stop tabs fuel (.literal '\n' :: done)

def parts (inner : Inner) (region : Region) : Reader (List Part) := do
  match region with
  | .braces => return (← unquoted inner true false limit []).reverse
  | .quotes => return (← doubleQuoted inner limit []).reverse
  | .quotedBraces => return (← bracesInQuotes inner false limit []).reverse
  | .document stop tabs => return (← documentText inner stop tabs limit true []).reverse
  | .arithmetic => return (← expression inner 0 limit []).reverse

def readDocuments (inner : Inner) : Reader Unit := do
  let due := (← get).pending
  modify fun source => { source with pending := [] }
  due.forM fun document => do
    let text ←
      if document.quoted then
        pure (← documentLines document.stop document.tabs limit []).reverse
      else inner.parts (.document document.stop document.tabs)
    modify fun source => { source with documents := (document.number, text) :: source.documents }

end JobShell.Script.Reader
