import JobShell.Number.Integer
import JobShell.Script.Syntax

/-!
Arithmetic on words of 64 bits with signs, with the operators of C except those that count up and
down. Variables stand for the numbers in them and can be assigned to.
-/

namespace JobShell.Script.Arithmetic

inductive Binary where
  | multiply
  | divide
  | remainder
  | add
  | subtract
  | shiftLeft
  | shiftRight
  | less
  | lessEqual
  | greater
  | greaterEqual
  | equal
  | unequal
  | bitAnd
  | bitXor
  | bitOr
  deriving DecidableEq, Repr

inductive Token where
  | number (value : Int)
  | variable (name : String)
  | binary (operator : Binary)
  /-- An assignment, with the operator that is applied first if there is one. -/
  | assign (operator : Option Binary)
  | and
  | or
  | not
  | complement
  | question
  | colon
  | opening
  | closing
  | bad
  deriving DecidableEq, Repr

inductive Fault where
  | wrong (message : String)
  | illegalNumber (text : String)
  | unset (name : String)
  deriving DecidableEq, Repr

/-- The level of an operator; those of lower levels are applied first. -/
def Binary.level : Binary → Nat
  | multiply | divide | remainder => 0
  | add | subtract => 1
  | shiftLeft | shiftRight => 2
  | less | lessEqual | greater | greaterEqual => 3
  | equal | unequal => 4
  | bitAnd => 5
  | bitXor => 6
  | bitOr => 7

def spellings : List (String × Token) :=
  [("<<=", .assign (some .shiftLeft)), (">>=", .assign (some .shiftRight)),
    ("||", .or), ("&&", .and), ("==", .binary .equal), ("!=", .binary .unequal),
    ("<=", .binary .lessEqual), (">=", .binary .greaterEqual), ("<<", .binary .shiftLeft),
    (">>", .binary .shiftRight), ("*=", .assign (some .multiply)),
    ("/=", .assign (some .divide)), ("%=", .assign (some .remainder)),
    ("+=", .assign (some .add)), ("-=", .assign (some .subtract)),
    ("&=", .assign (some .bitAnd)), ("^=", .assign (some .bitXor)),
    ("|=", .assign (some .bitOr)), ("=", .assign none), ("<", .binary .less),
    (">", .binary .greater), ("|", .binary .bitOr), ("&", .binary .bitAnd),
    ("^", .binary .bitXor), ("!", .not), ("~", .complement), ("*", .binary .multiply),
    ("/", .binary .divide), ("%", .binary .remainder), ("+", .binary .add),
    ("-", .binary .subtract), ("?", .question), (":", .colon), ("(", .opening), (")", .closing)]

def tokens (fuel : Nat) (text : List Char) : List Token :=
  match fuel, text with
  | 0, _ | _, [] => []
  | fuel + 1, c :: rest =>
    if c = ' ' ∨ c = '\t' ∨ c = '\n' then tokens fuel rest
    else if c.isDigit then
      let found := Number.read 0 text
      .number (Number.clampSigned found.value) :: tokens fuel found.rest
    else if startsName c then
      let name := text.takeWhile inName
      .variable (String.ofList name) :: tokens fuel (text.drop name.length)
    else
      match spellings.find? fun (spelling, _) => spelling.toList.isPrefixOf text with
      | some (spelling, token) => token :: tokens fuel (text.drop spelling.length)
      | none => .bad :: tokens fuel rest

structure State where
  tokens : List Token
  lookup : String → Option String
  /-- Whether a variable that is not set is an error. -/
  strict : Bool
  /-- What was assigned, last first. -/
  assigned : List (String × Int) := []

abbrev Calculation := StateT State (Except Fault)

def peek? : Calculation (Option Token) := do
  return (← get).tokens.head?

def advance : Calculation Unit :=
  modify fun state => { state with tokens := state.tokens.tail }

def numberOf (text : String) : Except Fault Int :=
  let found := Number.read 0 text.toList
  let rest := if found.any then found.rest else text.toList
  if Number.clampSigned found.value ≠ found.value || rest.any (!Number.isSpace ·) then
    .error (.illegalNumber text)
  else .ok found.value

def valueOf (name : String) : Calculation Int := do
  let state ← get
  match state.assigned.lookup name with
  | some value => return value
  | none =>
    match state.lookup name with
    | some text => numberOf text
    | none => if state.strict then throw (.unset name) else return 0

def truth (holds : Bool) : Int :=
  if holds then 1 else 0

def holds (value : Int) : Bool :=
  value != 0

def bits (value : Int) : Nat :=
  (value % Number.wordSize).toNat

def Binary.apply (operator : Binary) (a b : Int) : Except Fault Int :=
  let wrap (value : Int) : Except Fault Int := .ok (Number.wrapSigned value)
  match operator with
  | multiply => wrap (a * b)
  | divide => if b = 0 then .error (.wrong "division by zero") else wrap (a.tdiv b)
  | remainder => if b = 0 then .error (.wrong "division by zero") else wrap (a.tmod b)
  | add => wrap (a + b)
  | subtract => wrap (a - b)
  | shiftLeft => wrap (a * Nat.pow 2 (bits b % 64))
  | shiftRight => wrap (a / Nat.pow 2 (bits b % 64))
  | less => .ok (truth (a < b))
  | lessEqual => .ok (truth (a ≤ b))
  | greater => .ok (truth (a > b))
  | greaterEqual => .ok (truth (a ≥ b))
  | equal => .ok (truth (a == b))
  | unequal => .ok (truth (a != b))
  | bitAnd => wrap (bits a &&& bits b : Nat)
  | bitXor => wrap (bits a ^^^ bits b : Nat)
  | bitOr => wrap (bits a ||| bits b : Nat)

/-- An operand; `value` reads an expression in brackets and `skip` says that nothing is to be looked
up. At most `fuel` signs are read. -/
def operand (value : Calculation Int) (skip : Bool) (fuel : Nat) : Calculation Int := do
  match fuel with
  | 0 => throw (.wrong "expecting primary")
  | fuel + 1 =>
    let token ← peek?
    advance
    match token with
    | some (.number n) => return n
    | some (.variable name) => if skip then return 0 else valueOf name
    | some .opening =>
      let n ← value
      if (← peek?) ≠ some .closing then throw (.wrong "expecting ')'")
      advance
      return n
    | some (.binary .add) => operand value skip fuel
    | some (.binary .subtract) => return Number.wrapSigned (-(← operand value skip fuel))
    | some .not => return truth (!holds (← operand value skip fuel))
    | some .complement => return -(← operand value skip fuel) - 1
    | _ => throw (.wrong "expecting primary")

def operators (next : Calculation Int) (skip : Bool) (level fuel : Nat) (a : Int) :
    Calculation Int := do
  match fuel with
  | 0 => return a
  | fuel + 1 =>
    match ← peek? with
    | some (.binary operator) =>
      if operator.level < level then
        advance
        let b ← operators next skip operator.level fuel (← next)
        let c ← if skip then pure b else operator.apply a b
        operators next skip level fuel c
      else return a
    | _ => return a

def levels : Nat := 8

def sum (value : Calculation Int) (skip : Bool) (fuel : Nat) : Calculation Int := do
  let next := operand value skip fuel
  operators next skip levels fuel (← next)

def conjunction (value : Bool → Calculation Int) (skip : Bool) (fuel : Nat) : Calculation Int := do
  match fuel with
  | 0 => throw (.wrong "expecting primary")
  | fuel + 1 =>
    let a ← sum (value skip) skip (fuel + 1)
    if (← peek?) = some .and then
      advance
      let b ← conjunction value (skip || !holds a) fuel
      return truth (holds a && holds b)
    else return a

def disjunction (value : Bool → Calculation Int) (skip : Bool) (fuel : Nat) : Calculation Int := do
  match fuel with
  | 0 => throw (.wrong "expecting primary")
  | fuel + 1 =>
    let a ← conjunction value skip (fuel + 1)
    if (← peek?) = some .or then
      advance
      let b ← disjunction value (skip || holds a) fuel
      return truth (holds a || holds b)
    else return a

def choice (value : Bool → Calculation Int) (skip : Bool) (fuel : Nat) : Calculation Int := do
  match fuel with
  | 0 => throw (.wrong "expecting primary")
  | fuel + 1 =>
    let a ← disjunction value skip (fuel + 1)
    if (← peek?) = some .question then
      advance
      let b ← value (skip || !holds a)
      if (← peek?) ≠ some .colon then throw (.wrong "expecting ':'")
      advance
      let c ← choice value (skip || holds a) fuel
      return if holds a then b else c
    else return a

/-- An expression that may be an assignment; `skip` says that it has no effect. -/
def expression (fuel : Nat) (skip : Bool) : Calculation Int := do
  match fuel with
  | 0 => throw (.wrong "expecting primary")
  | fuel + 1 =>
    match (← get).tokens with
    | .variable name :: .assign operator :: rest =>
      modify fun state => { state with tokens := rest }
      let value ← expression fuel skip
      if skip then return value
      else
        let result ← match operator with
          | none => pure value
          | some operator => do operator.apply (← valueOf name) value
        modify fun state => { state with assigned := (name, result) :: state.assigned }
        return result
    | _ => choice (expression fuel) skip (fuel + 1)

def whole (fuel : Nat) : Calculation Int := do
  let value ← expression fuel false
  if (← peek?).isSome then throw (.wrong "expecting EOF")
  return value

def evaluate (lookup : String → Option String) (strict : Bool) (text : List Char) :
    Except Fault (Int × List (String × Int)) :=
  let tokens := tokens text.length text
  match (whole (tokens.length + 2)).run { tokens, lookup, strict } with
  | .ok (value, state) => .ok (value, state.assigned.reverse)
  | .error fault => .error fault

end JobShell.Script.Arithmetic
