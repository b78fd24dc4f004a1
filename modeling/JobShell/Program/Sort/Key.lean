import JobShell.Program.Sort.Order

/-!
Keys: the part of a line that it is sorted by, and the order of that part.
-/

namespace JobShell.Sort

inductive Kind where
  | text
  | numeric
  | general
  | human
  | month
  | random
  | version
  deriving DecidableEq, Repr

structure Manner where
  kinds : List Kind := []
  /-- Whether blanks before the start of the key do not count. -/
  skipStart : Bool := false
  /-- Whether blanks before its end do not count. -/
  skipEnd : Bool := false
  /-- Whether only blanks, letters and digits count. -/
  dictionary : Bool := false
  /-- Whether only characters that can be seen count. -/
  printing : Bool := false
  fold : Bool := false
  reverse : Bool := false
  deriving DecidableEq, Repr, Inhabited

namespace Manner

def isPlain (m : Manner) : Bool :=
  m.kinds.isEmpty && !(m.skipStart || m.skipEnd || m.dictionary || m.printing || m.fold)

def kind (m : Manner) : Kind :=
  m.kinds.headD .text

/-- The manner with a letter added to it; `start` and `stop` say for which end of the key it is. -/
def add? (m : Manner) (start stop : Bool) (letter : Char) : Option Manner :=
  let kind (k : Kind) : Option Manner :=
    some (if m.kinds.contains k then m else { m with kinds := m.kinds ++ [k] })
  match letter with
  | 'b' => some { m with skipStart := m.skipStart || start, skipEnd := m.skipEnd || stop }
  | 'd' => some { m with dictionary := true }
  | 'f' => some { m with fold := true }
  | 'g' => kind .general
  | 'h' => kind .human
  | 'i' => some { m with printing := m.printing || !m.dictionary }
  | 'M' => kind .month
  | 'n' => kind .numeric
  | 'r' => some { m with reverse := true }
  | 'R' => kind .random
  | 'V' => kind .version
  | _ => none

def conflict? (m : Manner) : Option String :=
  let ignoring := m.dictionary || m.printing
  let count := m.kinds.length + if ignoring && !m.kinds.isEmpty then 1 else 0
  if count ≤ 1 then none
  else
    let letter (wanted : Bool) (c : Char) : List Char := if wanted then [c] else []
    some (String.ofList
      (letter m.dictionary 'd' ++ letter (m.kinds.contains .general) 'g' ++
        letter (m.kinds.contains .human) 'h' ++ letter (m.printing && !m.dictionary) 'i' ++
        letter (m.kinds.contains .month) 'M' ++ letter (m.kinds.contains .numeric) 'n' ++
        letter (m.kinds.contains .random) 'R' ++ letter (m.kinds.contains .version) 'V'))

def filtered (m : Manner) (text : List Char) : List Char :=
  let text := if m.dictionary then text.filter fun c => isBlank c || c.isAlphanum
    else if m.printing then text.filter fun c => ' ' ≤ c && c ≤ '~'
    else text
  if m.fold then text.map Char.toUpper else text

def compareKeys (m : Manner) (a b : List Char) : Ordering :=
  let order :=
    match m.kind with
    | .text | .random => compareText (m.filtered a) (m.filtered b)
    | .numeric => compareNumeric a b
    | .general => compareGeneral a b
    | .human => compareHuman a b
    | .month => compare (month a) (month b)
    | .version => compareVersion (m.filtered a) (m.filtered b)
  if m.reverse then order.swap else order

end Manner

/-- Where a key ends: `field` is counted from zero; without characters it is the end of the field. -/
structure KeyEnd where
  field : Nat
  characters : Nat
  deriving DecidableEq, Repr

structure Key where
  /-- The field it starts in, counted from zero. -/
  field : Nat := 0
  /-- How many characters of that field are skipped. -/
  characters : Nat := 0
  stop : Option KeyEnd := none
  manner : Manner := {}
  deriving DecidableEq, Repr, Inhabited

/-- A line without its first fields, of which each but the first starts with the blanks before it or,
with a separator, after one. -/
def skipFields (separator : Option Char) (text : List Char) : Nat → List Char
  | 0 => text
  | count + 1 =>
    match separator with
    | some c => skipFields separator ((text.dropWhile (· != c)).drop 1) count
    | none => skipFields separator ((text.dropWhile isBlank).dropWhile (!isBlank ·)) count

namespace Key

def start (key : Key) (separator : Option Char) (line : List Char) : List Char :=
  let text := skipFields separator line key.field
  let text := if key.manner.skipStart then text.dropWhile isBlank else text
  text.drop key.characters

def rest (key : Key) (separator : Option Char) (line : List Char) : List Char :=
  match key.stop with
  | none => []
  | some stop =>
    if stop.characters = 0 then
      let text := skipFields separator line stop.field
      match separator with
      | some c => text.dropWhile (· != c)
      | none => (text.dropWhile isBlank).dropWhile (!isBlank ·)
    else
      let text := skipFields separator line stop.field
      let text := if key.manner.skipEnd then text.dropWhile isBlank else text
      text.drop stop.characters

def ofLine (key : Key) (separator : Option Char) (line : List Char) : List Char :=
  let start := key.start separator line
  start.take (start.length - (key.rest separator line).length)

/-- A number of a field or character: the greatest of all if there are too many digits. -/
def readCount (text : List Char) : Option (Nat × List Char) :=
  let digits := text.takeWhile Char.isDigit
  if digits = [] then none
  else some (Number.ofDigits 10 digits, text.drop digits.length)

/-- Reads the letters of a manner; `start` says for which end of the key. -/
def readLetters (m : Manner) (start : Bool) : List Char → Manner × List Char
  | [] => (m, [])
  | c :: rest =>
    match m.add? start (!start) c with
    | some m => readLetters m start rest
    | none => (m, c :: rest)

def readEnd (spec : String) (key : Key) (text : List Char) : Except String Key :=
  let bad (what : String) : Except String Key :=
    .error (what ++ ": invalid field specification " ++ spec)
  match readCount text with
  | none =>
    .error ("invalid number after ',': invalid count at start of '" ++ String.ofList text ++ "'")
  | some (0, _) => bad "field number is zero"
  | some (field + 1, text) =>
    let finish (characters : Nat) (text : List Char) : Except String Key :=
      let (manner, rest) := readLetters key.manner false text
      if rest = [] then .ok { key with stop := some { field, characters }, manner }
      else bad "stray character in field spec"
    match text with
    | '.' :: text =>
      match readCount text with
      | none =>
        .error ("invalid number after '.': invalid count at start of '" ++ String.ofList text ++ "'")
      | some (characters, text) => finish characters text
    | _ => finish 0 text

/-- The key that a text describes, or what is wrong with it. `spec` is the text as it is quoted in
messages. -/
def ofText (spec : String) (text : List Char) : Except String Key :=
  let bad (what : String) : Except String Key :=
    .error (what ++ ": invalid field specification " ++ spec)
  let finish (field characters : Nat) (text : List Char) : Except String Key :=
    let (manner, rest) := readLetters {} true text
    let key : Key := { field, characters, manner }
    match rest with
    | [] => .ok key
    | ',' :: rest => readEnd spec key rest
    | _ => bad "stray character in field spec"
  match readCount text with
  | none =>
    .error ("invalid number at field start: invalid count at start of '" ++ String.ofList text ++ "'")
  | some (0, _) => bad "field number is zero"
  | some (field + 1, '.' :: text) =>
    match readCount text with
    | none =>
      .error ("invalid number after '.': invalid count at start of '" ++ String.ofList text ++ "'")
    | some (0, _) => bad "character offset is zero"
    | some (characters + 1, text) => finish field characters text
  | some (field + 1, text) => finish field 0 text

end Key

end JobShell.Sort
