/-!
Whole numbers at the start of a text, with or without the mark of a base, and the limits of the
words that hold them.
-/

namespace JobShell.Number

def digitValue? (base : Nat) (c : Char) : Option Nat :=
  let value :=
    if '0' ≤ c ∧ c ≤ '9' then some (c.toNat - '0'.toNat)
    else if 'a' ≤ c ∧ c ≤ 'z' then some (c.toNat - 'a'.toNat + 10)
    else if 'A' ≤ c ∧ c ≤ 'Z' then some (c.toNat - 'A'.toNat + 10)
    else none
  value.filter (· < base)

def isDigit (base : Nat) (c : Char) : Bool :=
  (digitValue? base c).isSome

def ofDigits (base : Nat) (digits : List Char) : Nat :=
  digits.foldl (fun n c => n * base + (digitValue? base c).getD 0) 0

def isSpace (c : Char) : Bool :=
  c == ' ' || ('\t' ≤ c && c ≤ '\r')

/-- A sign at the start of a text: whether it is a minus, and the rest. -/
def splitSign : List Char → Bool × List Char
  | '-' :: rest => (true, rest)
  | '+' :: rest => (false, rest)
  | text => (false, text)

/-- The digits at the start of a text and the base that their mark names: `0x` for 16, `0` for 8,
nothing for 10. -/
def markedDigits : List Char → Nat × List Char
  | '0' :: x :: c :: rest =>
    if (x = 'x' ∨ x = 'X') ∧ isDigit 16 c then (16, (c :: rest).takeWhile (isDigit 16))
    else (8, ('0' :: x :: c :: rest).takeWhile (isDigit 8))
  | '0' :: rest => (8, ('0' :: rest).takeWhile (isDigit 8))
  | text => (10, text.takeWhile (isDigit 10))

structure Found where
  value : Int
  rest : List Char
  /-- Whether there was a number. -/
  any : Bool
  deriving DecidableEq, Repr

/-- The number at the start of a text. In base 0 a mark names the base. -/
def read (base : Nat) (text : List Char) : Found :=
  let (negative, body) := splitSign (text.dropWhile isSpace)
  let (base, digits) := if base = 0 then markedDigits body else (base, body.takeWhile (isDigit base))
  let marks :=
    match base, body with
    | 16, '0' :: x :: c :: _ => if (x = 'x' ∨ x = 'X') ∧ isDigit 16 c then 2 else 0
    | _, _ => 0
  if digits = [] then { value := 0, rest := text, any := false }
  else
    let value : Int := ofDigits base digits
    { value := if negative then -value else value
      rest := body.drop (marks + digits.length)
      any := true }

def maxSigned : Int := 9223372036854775807

def minSigned : Int := -9223372036854775808

def wordSize : Int := 18446744073709551616

def clampSigned (value : Int) : Int :=
  max minSigned (min maxSigned value)

/-- The number as an unsigned word; one that is too great becomes the greatest. -/
def clampUnsigned (value : Int) : Nat :=
  if wordSize ≤ value.natAbs then (wordSize - 1).toNat else (value % wordSize).toNat

def wrapSigned (value : Int) : Int :=
  value.bmod 18446744073709551616

def digits (base : Nat) (upper : Bool) (value : Nat) : List Char :=
  let digits := Nat.toDigits base value
  if upper then digits.map Char.toUpper else digits

end JobShell.Number
