import JobShell.Number.Integer

/-!
Floating-point numbers of a given precision, as exact fractions: reading one rounds to the nearest,
ties to the even one, and printing one is exact before the last digit is rounded in the same way.
-/

namespace JobShell.Number

structure Precision where
  bits : Nat
  /-- The least exponent of the last bit. -/
  minExponent : Int
  /-- The exponent that no number reaches. -/
  maxExponent : Int
  deriving DecidableEq, Repr

def Precision.double : Precision := { bits := 53, minExponent := -1074, maxExponent := 1024 }

def Precision.extended : Precision := { bits := 64, minExponent := -16445, maxExponent := 16384 }

inductive Floating where
  | finite (negative : Bool) (mantissa : Nat) (exponent : Int)
  | infinite (negative : Bool)
  | nan (negative : Bool)
  deriving DecidableEq, Repr

/-- The quotient rounded to the nearest, ties to the even one. -/
def roundDiv (num den : Nat) : Nat :=
  let quotient := num / den
  let twice := 2 * (num % den)
  if twice < den then quotient
  else if den < twice then quotient + 1
  else if quotient % 2 = 0 then quotient else quotient + 1

def scaled (num den : Nat) (exponent : Int) : Nat × Nat :=
  if 0 ≤ exponent then (num * Nat.pow 2 exponent.toNat, den)
  else (num, den * Nat.pow 2 (-exponent).toNat)

namespace Floating

def ofFraction (p : Precision) (negative : Bool) (num den : Nat) : Floating :=
  if num = 0 ∨ den = 0 then finite negative 0 0
  else
    let guess : Int := (num.log2 : Int) - den.log2 - p.bits
    let exponent := max p.minExponent guess
    let mantissa (exponent : Int) : Nat :=
      let (num, den) := scaled num den (-exponent)
      roundDiv num den
    let exponent := if mantissa exponent < Nat.pow 2 p.bits then exponent else exponent + 1
    let exponent := if mantissa exponent < Nat.pow 2 p.bits then exponent else exponent + 1
    let m := mantissa exponent
    if p.maxExponent < exponent + m.log2 + 1 then infinite negative else finite negative m exponent

def isNegative : Floating → Bool
  | finite negative _ _ | infinite negative | nan negative => negative

/-- The order of two numbers; none if one of them is not a number. -/
def compare? : Floating → Floating → Option Ordering
  | nan _, _ | _, nan _ => none
  | a, b => some (compare (key a) (key b))
where
  /-- A number in the order of its value. -/
  key : Floating → Int
    | finite negative m e =>
      let value : Int := m * Nat.pow 2 (e + 20000).toNat
      if negative then -value else value
    | infinite negative =>
      let most : Int := Nat.pow 2 40000
      if negative then -most else most
    | nan _ => 0

end Floating

def small (text : List Char) : List Char :=
  text.map Char.toLower

/-- The exponent after its letter, and the rest; nothing if there is no number. -/
def readExponent (letter : Char) (text : List Char) : Int × List Char :=
  match text with
  | c :: rest =>
    if c.toLower = letter then
      let (negative, body) := splitSign rest
      let digits := body.takeWhile (isDigit 10)
      if digits = [] then (0, text)
      else
        let value : Int := ofDigits 10 digits
        (if negative then -value else value, body.drop digits.length)
    else (0, text)
  | [] => (0, [])

def exponentLimit : Int := 40000

def assemble (p : Precision) (negative : Bool) (base : Nat) (whole part : List Char) (power : Nat)
    (exponent : Int) : Floating :=
  let value := ofDigits base (whole ++ part)
  if value = 0 then .finite negative 0 0
  else if exponentLimit < exponent then .infinite negative
  else if exponent < -exponentLimit then .finite negative 0 0
  else
    let den := Nat.pow base part.length
    if 0 ≤ exponent then .ofFraction p negative (value * Nat.pow power exponent.toNat) den
    else .ofFraction p negative value (den * Nat.pow power (-exponent).toNat)

/-- Digits in a base with a point among them: those before it, those after it, and the rest. -/
def splitPoint (base : Nat) (text : List Char) : List Char × List Char × List Char :=
  let whole := text.takeWhile (isDigit base)
  match text.drop whole.length with
  | '.' :: rest =>
    let part := rest.takeWhile (isDigit base)
    (whole, part, rest.drop part.length)
  | rest => (whole, [], rest)

def readFinite? (p : Precision) (negative : Bool) (text : List Char) :
    Option (Floating × List Char) :=
  let decimal : Option (Floating × List Char) :=
    let (whole, part, rest) := splitPoint 10 text
    if whole ++ part = [] then none
    else
      let (exponent, rest) := readExponent 'e' rest
      some (assemble p negative 10 whole part 10 exponent, rest)
  match text with
  | '0' :: x :: body =>
    if x = 'x' ∨ x = 'X' then
      let (whole, part, rest) := splitPoint 16 body
      if whole ++ part = [] then decimal
      else
        let (exponent, rest) := readExponent 'p' rest
        some (assemble p negative 16 whole part 2 exponent, rest)
    else decimal
  | _ => decimal

def readFloating? (p : Precision) (text : List Char) : Option (Floating × List Char) :=
  let (negative, body) := splitSign (text.dropWhile isSpace)
  let word := small (body.take 8)
  if word = "infinity".toList then some (.infinite negative, body.drop 8)
  else if word.take 3 = "inf".toList then some (.infinite negative, body.drop 3)
  else if word.take 3 = "nan".toList then some (.nan negative, body.drop 3)
  else readFinite? p negative body

/-! Printing. -/

def withPoint (value places : Nat) (keepPoint : Bool) : List Char :=
  let digits := Nat.toDigits 10 value
  let digits := List.replicate (places + 1 - digits.length) '0' ++ digits
  let (whole, part) := digits.splitAt (digits.length - places)
  whole ++ if places = 0 ∧ !keepPoint then [] else '.' :: part

def roundScaled (mantissa : Nat) (exponent power : Int) : Nat :=
  let (num, den) := scaled mantissa 1 exponent
  if 0 ≤ power then roundDiv (num * Nat.pow 10 power.toNat) den
  else roundDiv num (den * Nat.pow 10 (-power).toNat)

def decimalExponent (mantissa : Nat) (exponent : Int) : Int :=
  let guess : Int := ((mantissa.log2 : Int) + exponent) * 30103 / 100000
  let atLeast (power : Int) : Bool :=
    let (num, den) := scaled mantissa 1 exponent
    if 0 ≤ power then den * Nat.pow 10 power.toNat ≤ num else den ≤ num * Nat.pow 10 (-power).toNat
  if atLeast (guess + 1) then guess + 1
  else if atLeast guess then guess
  else guess - 1

def scientific (mantissa : Nat) (exponent : Int) (places : Nat) : Nat × Int :=
  if mantissa = 0 then (0, 0)
  else
    let e := decimalExponent mantissa exponent
    let digits := roundScaled mantissa exponent (places - e)
    if digits < Nat.pow 10 (places + 1) then (digits, e) else (digits / 10, e + 1)

def exponentText (letter : Char) (least : Nat) (e : Int) : List Char :=
  let digits := Nat.toDigits 10 e.natAbs
  letter :: (if e < 0 then '-' else '+') ::
    (List.replicate (least - digits.length) '0' ++ digits)

def trimZeros (text : List Char) : List Char :=
  if text.contains '.' then
    match text.reverse.dropWhile (· == '0') with
    | '.' :: rest => rest.reverse
    | rest => rest.reverse
  else text

def generalForm (mantissa : Nat) (exponent : Int) (precision : Nat) (keepZeros : Bool) :
    List Char :=
  let precision := max 1 precision
  let (digits, e) := scientific mantissa exponent (precision - 1)
  let trim (text : List Char) : List Char := if keepZeros then text else trimZeros text
  if e < -4 ∨ (precision : Int) ≤ e then
    trim (withPoint digits (precision - 1) keepZeros) ++ exponentText 'e' 2 e
  else
    let places := ((precision : Int) - 1 - e).toNat
    trim (withPoint (roundScaled mantissa exponent places) places keepZeros)

/-- A number in hexadecimal with a power of two. Its first digit takes up `lead` bits of the
mantissa. -/
def hexForm (p : Precision) (mantissa : Nat) (exponent : Int) (precision : Option Nat)
    (keepPoint : Bool) : List Char :=
  let lead := (p.bits - 1) % 4 + 1
  if mantissa = 0 then
    let zeros := List.replicate (precision.getD 0) '0'
    "0".toList ++ (if zeros = [] ∧ !keepPoint then [] else '.' :: zeros) ++ "p+0".toList
  else
    let shift := p.bits - 1 - mantissa.log2
    let mantissa := mantissa * Nat.pow 2 shift
    let exponent := exponent - shift
    let places := (p.bits - lead) / 4
    let (value, kept) :=
      match precision with
      | some n =>
        if n < places then (roundDiv mantissa (Nat.pow 16 (places - n)), n) else (mantissa, places)
      | none => (mantissa, places)
    let digits := Nat.toDigits 16 value
    let (whole, part) := digits.splitAt (digits.length - kept)
    let part :=
      match precision with
      | some n => part ++ List.replicate (n - kept) '0'
      | none => (part.reverse.dropWhile (· == '0')).reverse
    let e := exponent + places * 4
    whole ++ (if part = [] ∧ !keepPoint then [] else '.' :: part) ++ exponentText 'p' 1 e

end JobShell.Number
