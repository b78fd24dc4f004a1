import JobShell.Number.Floating

/-!
The orders of lines: by their bytes, as numbers of several kinds, as months and as versions.
A line has one character for each byte.
-/

namespace JobShell.Sort

def isBlank (c : Char) : Bool :=
  c == ' ' || c == '\t' || c == '\n'

def compareText : List Char → List Char → Ordering
  | [], [] => .eq
  | [], _ => .lt
  | _, [] => .gt
  | a :: as, b :: bs => if a < b then .lt else if b < a then .gt else compareText as bs

structure Decimal where
  negative : Bool
  /-- The digits before the point, without zeros in front. -/
  whole : List Char
  /-- The digits after the point, without zeros at the end. -/
  part : List Char
  rest : List Char
  deriving DecidableEq, Repr

namespace Decimal

/-- The decimal number at the start of a text; a text that starts with none counts as zero. -/
def ofText (text : List Char) : Decimal :=
  let body := text.dropWhile isBlank
  let (negative, body) : Bool × List Char :=
    match body with
    | '-' :: rest => (true, rest)
    | _ => (false, body)
  let whole := body.takeWhile Char.isDigit
  let after := body.drop whole.length
  let (part, rest) : List Char × List Char :=
    match after with
    | '.' :: rest =>
      let part := rest.takeWhile Char.isDigit
      (part, rest.drop part.length)
    | _ => ([], after)
  { negative
    whole := whole.dropWhile (· == '0')
    part := (part.reverse.dropWhile (· == '0')).reverse
    rest }

def isZero (d : Decimal) : Bool :=
  d.whole.isEmpty && d.part.isEmpty

def compareSize (a b : Decimal) : Ordering :=
  (compare a.whole.length b.whole.length).then
    ((compareText a.whole b.whole).then (compareText a.part b.part))

def compareValue (a b : Decimal) : Ordering :=
  if a.isZero ∧ b.isZero then .eq
  else
    match a.negative && !a.isZero, b.negative && !b.isZero with
    | false, false => compareSize a b
    | true, true => (compareSize a b).swap
    | true, false => .lt
    | false, true => .gt

end Decimal

def compareNumeric (a b : List Char) : Ordering :=
  (Decimal.ofText a).compareValue (.ofText b)

def unitLetters : List Char := "KMGTPEZYRQ".toList

/-- How great the unit after a number is; negative for a number below zero. -/
def unitOrder (d : Decimal) : Int :=
  if d.isZero then 0
  else
    let order : Int :=
      match d.rest with
      | c :: _ =>
        match unitLetters.idxOf? (if c = 'k' then 'K' else c) with
        | some i => i + 1
        | none => 0
      | [] => 0
    if d.negative then -order else order

def compareHuman (a b : List Char) : Ordering :=
  let x := Decimal.ofText a
  let y := Decimal.ofText b
  (compare (unitOrder x) (unitOrder y)).then (x.compareValue y)

/-- The order of two texts as floating-point numbers: first what is none, then those that are not a
number, then by value. -/
def compareGeneral (a b : List Char) : Ordering :=
  match Number.readFloating? .extended a, Number.readFloating? .extended b with
  | none, none => .eq
  | none, some _ => .lt
  | some _, none => .gt
  | some (x, _), some (y, _) =>
    match Number.Floating.compare? x y, x, y with
    | some order, _, _ => order
    | none, .nan _, .nan _ => .eq
    | none, .nan _, _ => .lt
    | none, _, _ => .gt

def months : List String :=
  ["JAN", "FEB", "MAR", "APR", "MAY", "JUN", "JUL", "AUG", "SEP", "OCT", "NOV", "DEC"]

/-- The number of the month that a text names; 0 if it names none. -/
def month (text : List Char) : Nat :=
  let name := String.ofList (((text.dropWhile isBlank).take 3).map Char.toUpper)
  match months.idxOf? name with
  | some i => i + 1
  | none => 0

/-! Versions: parts that are not digits are compared with letters before other characters, and a
tilde before everything, even the end; parts that are digits are compared as numbers. -/

def versionRank : Option Char → Int
  | none => -1
  | some '~' => -2
  | some c => if c.isDigit then 0 else if c.isAlpha then c.toNat else c.toNat + 256

def compareVersions (fuel : Nat) (a b : List Char) : Ordering :=
  match fuel with
  | 0 => .eq
  | fuel + 1 =>
    match a, b with
    | [], [] => .eq
    | _, _ =>
      let startsPlain (text : List Char) : Bool := text.head?.any (!·.isDigit)
      if startsPlain a || startsPlain b then
        let rank (text : List Char) : Int :=
          match text.head? with
          | some c => if c.isDigit then 0 else versionRank (some c)
          | none => versionRank none
        let x := rank a
        let y := rank b
        if x ≠ y then compare x y
        else compareVersions fuel (if startsPlain a then a.tail else a)
          (if startsPlain b then b.tail else b)
      else
        let number (text : List Char) : List Char := (text.takeWhile Char.isDigit).dropWhile (· == '0')
        let rest (text : List Char) : List Char := text.dropWhile Char.isDigit
        let x := number a
        let y := number b
        let order := (compare x.length y.length).then (compareText x y)
        if order ≠ .eq then order else compareVersions fuel (rest a) (rest b)

/-- Whether a text is a suffix of a file name: a point and a letter or tilde, and then letters,
digits and tildes. -/
def isSuffix : List Char → Bool
  | '.' :: c :: rest =>
    (c.isAlpha || c == '~') && rest.all fun c => c.isAlphanum || c == '~'
  | _ => false

def withoutSuffixes (text : List Char) : List Char :=
  let parts := text.splitOnP (· == '.')
  let kept := (parts.tail.reverse.dropWhile fun part => isSuffix ('.' :: part)).reverse
  parts.headD [] ++ kept.flatMap ('.' :: ·)

def compareVersion (a b : List Char) : Ordering :=
  if a = b then .eq
  else
    match a, b with
    | [], _ => .lt
    | _, [] => .gt
    | _, _ =>
      let special (text : List Char) : Nat :=
        match text with
        | ['.'] => 0
        | ['.', '.'] => 1
        | '.' :: _ => 2
        | _ => 3
      let kind := compare (special a) (special b)
      if kind ≠ .eq then kind
      else
        let x := withoutSuffixes a
        let y := withoutSuffixes b
        let first := compareVersions (x.length + y.length + 1) x y
        if first ≠ .eq then first else compareVersions (a.length + b.length + 1) a b

end JobShell.Sort
