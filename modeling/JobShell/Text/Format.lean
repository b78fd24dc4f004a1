import JobShell.Number.Floating

/-!
Conversions of one argument to text under flags, a width and a precision.
-/

namespace JobShell.Text

structure Conversion where
  leftAligned : Bool := false
  plus : Bool := false
  space : Bool := false
  alternative : Bool := false
  zeroPadded : Bool := false
  width : Nat := 0
  precision : Option Nat := none
  deriving DecidableEq, Repr, Inhabited

namespace Conversion

def addFlag? (c : Conversion) : Char → Option Conversion
  | '-' => some { c with leftAligned := true }
  | '+' => some { c with plus := true }
  | ' ' => some { c with space := true }
  | '#' => some { c with alternative := true }
  | '0' => some { c with zeroPadded := true }
  | '\'' | 'I' => some c
  | _ => none

def withWidth (c : Conversion) (width : Int) : Conversion :=
  if width < 0 then { c with leftAligned := true, width := width.natAbs }
  else { c with width := width.toNat }

/-- The conversion with a precision; a negative one counts as none. -/
def withPrecision (c : Conversion) (precision : Int) : Conversion :=
  { c with precision := if precision < 0 then none else some precision.toNat }

def pad (c : Conversion) (text : List Char) : List Char :=
  let gap := List.replicate (c.width - text.length) ' '
  if c.leftAligned then text ++ gap else gap ++ text

def padNumber (c : Conversion) (zeros : Bool) (sign digits : List Char) : List Char :=
  if zeros && c.zeroPadded && !c.leftAligned then
    sign ++ List.replicate (c.width - sign.length - digits.length) '0' ++ digits
  else c.pad (sign ++ digits)

def sign (c : Conversion) (negative : Bool) : List Char :=
  if negative then ['-'] else if c.plus then ['+'] else if c.space then [' '] else []

/-- Digits, as many as the precision asks for at least; a zero has none if that is zero. -/
def leastDigits (c : Conversion) (digits : List Char) : List Char :=
  match c.precision with
  | some n => if digits = ['0'] ∧ n = 0 then [] else List.replicate (n - digits.length) '0' ++ digits
  | none => digits

def text (c : Conversion) (text : List Char) : List Char :=
  c.pad (match c.precision with
    | some n => text.take n
    | none => text)

def signed (c : Conversion) (value : Int) : List Char :=
  c.padNumber c.precision.isNone (c.sign (value < 0)) (c.leastDigits (Nat.toDigits 10 value.natAbs))

def unsigned (c : Conversion) (letter : Char) (value : Nat) : List Char :=
  let base := if letter = 'o' then 8 else if letter = 'u' then 10 else 16
  let digits := c.leastDigits (Number.digits base (letter == 'X') value)
  if letter = 'o' ∧ c.alternative ∧ digits.head? ≠ some '0' then
    c.padNumber c.precision.isNone [] ('0' :: digits)
  else
    let mark := if base = 16 ∧ c.alternative ∧ value ≠ 0 then ['0', letter] else []
    c.padNumber c.precision.isNone mark digits

/-- A floating-point number under the conversion `e`, `f`, `g` or `a`, which may be a capital. -/
def floating (c : Conversion) (p : Number.Precision) (letter : Char) (value : Number.Floating) :
    List Char :=
  let sign := c.sign value.isNegative
  let cased (text : List Char) : List Char :=
    if letter.isUpper then text.map Char.toUpper else text
  match value with
  | .infinite _ => c.padNumber false sign (cased "inf".toList)
  | .nan _ => c.padNumber false sign (cased "nan".toList)
  | .finite _ mantissa exponent =>
    let places := c.precision.getD 6
    match letter.toLower with
    | 'f' =>
      c.padNumber true sign
        (Number.withPoint (Number.roundScaled mantissa exponent places) places c.alternative)
    | 'e' =>
      let (digits, e) := Number.scientific mantissa exponent places
      c.padNumber true sign
        (cased (Number.withPoint digits places c.alternative ++ Number.exponentText 'e' 2 e))
    | 'g' =>
      c.padNumber true sign (cased (Number.generalForm mantissa exponent places c.alternative))
    | _ =>
      c.padNumber true (sign ++ cased ['0', 'x'])
        (cased (Number.hexForm p mantissa exponent c.precision c.alternative))

end Conversion

end JobShell.Text
