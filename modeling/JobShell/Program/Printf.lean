import JobShell.Number.Floating
import JobShell.Text.Escape
import JobShell.Text.Format
import JobShell.Text.Quoting

/-!
Printing under a format: the text is copied, escapes stand for bytes, and directives for the
arguments in turn. The format is used again until no argument is left. There are two styles, that
of the program of the system and that of the script language.
-/

namespace JobShell

structure PrintfStyle where
  /-- Whether this is the style of the script language. -/
  scripted : Bool
  precision : Number.Precision
  format : Text.EscapeStyle
  /-- The escapes in an argument of the directive `b`. -/
  argument : Text.EscapeStyle
  flags : List Char
  noNumber : String
  notAllNumber : String
  deriving DecidableEq, Repr

namespace PrintfStyle

def system : PrintfStyle where
  scripted := false
  precision := .extended
  format := { hex := true, quote := true }
  argument := { zeroFirst := true, hex := true, quote := true }
  flags := "-+ #0'I".toList
  noNumber := "expected a numeric value"
  notAllNumber := "value not completely converted"

def script : PrintfStyle where
  scripted := true
  precision := .double
  format := { cuts := false }
  argument := { zeroFirst := true }
  flags := "-+ #0".toList
  noNumber := "expected numeric value"
  notAllNumber := "not completely converted"

end PrintfStyle

structure Printing where
  args : List String
  output : List Char := []
  /-- What was said about the arguments, in order, with how much had been printed before it. -/
  messages : List (Nat × String) := []
  code : UInt8 := 0
  deriving DecidableEq, Repr

/-- A step of printing. One that fails ends it; with a code, because of an error. -/
abbrev Printer := EStateM (Option UInt8) Printing

namespace Printer

def put (text : List Char) : Printer Unit :=
  modify fun p => { p with output := p.output ++ text }

def tell (message : String) : Printer Unit :=
  modify fun p => { p with messages := p.messages ++ [(p.output.length, message)] }

def warn (message : String) : Printer Unit := do
  tell message
  modify fun p => { p with code := 1 }

def abort {α : Type} (style : PrintfStyle) (message : String) : Printer α := do
  tell message
  throw (some (if style.scripted then 2 else 1))

def next? : Printer (Option String) := do
  let p ← get
  set { p with args := p.args.tail }
  return p.args.head?

def called (style : PrintfStyle) (text : String) : String :=
  if style.scripted then text else Text.quotePlain text

def outOfRange : String := "Numerical result out of range"

def verify (style : PrintfStyle) (text : String) (rest : List Char) (inRange : Bool) :
    Printer Unit := do
  let name := called style text
  let leftOver := rest != []
  if !inRange && (!leftOver || !style.scripted) then warn (name ++ ": " ++ outOfRange)
  else if leftOver then
    if rest = text.toList then warn (name ++ ": " ++ style.noNumber)
    else warn (name ++ ": " ++ style.notAllNumber)

/-- The character after a quote, if the argument is one: its value stands for the argument. -/
def quoted? (style : PrintfStyle) (text : String) : Printer (Option Nat) := do
  match text.toList with
  | q :: rest =>
    if q ≠ '"' ∧ q ≠ '\'' then return none
    else
      match rest with
      | [] => return if style.scripted then some 0 else none
      | c :: rest =>
        if !style.scripted && rest != [] then
          tell ("warning: " ++ String.ofList rest ++
            ": character(s) following character constant have been ignored")
        return some c.toNat
  | [] => return none

def integer (style : PrintfStyle) (signed : Bool) : Printer Int := do
  let text := (← next?).getD ""
  match ← quoted? style text with
  | some value => return value
  | none =>
    let found := Number.read 0 text.toList
    let rest := if found.any then found.rest else text.toList
    let value : Int := if signed then Number.clampSigned found.value
      else Number.clampUnsigned found.value
    let inRange :=
      if signed then value == found.value else decide (found.value.natAbs < Number.wordSize)
    verify style text rest inRange
    return value

def floating (style : PrintfStyle) : Printer Number.Floating := do
  let text := (← next?).getD ""
  match ← quoted? style text with
  | some value => return .finite false value 0
  | none =>
    match Number.readFloating? style.precision text.toList with
    | none =>
      verify style text text.toList true
      return .finite false 0 0
    | some (value, rest) =>
      let overflowed :=
        match value with
        | .infinite _ => text.toList.any Char.isDigit
        | _ => false
      verify style text rest !overflowed
      return value

def measure (style : PrintfStyle) (text : List Char) : Printer (Option Int × List Char) := do
  match text with
  | '*' :: rest =>
    let value ← if (← get).args = [] then pure 0 else integer style true
    return (some value, rest)
  | _ =>
    let digits := text.takeWhile Char.isDigit
    if digits = [] then return (none, text)
    else return (some (Number.ofDigits 10 digits), text.drop digits.length)

def conversion (style : PrintfStyle) (text : List Char) :
    Printer (Text.Conversion × List Char) := do
  let flags := text.takeWhile style.flags.contains
  let base : Text.Conversion := flags.foldl (fun c flag => (c.addFlag? flag).getD c) {}
  let (width, rest) ← measure style (text.drop flags.length)
  let sized := base.withWidth (width.getD 0)
  match rest with
  | '.' :: rest =>
    let (precision, rest) ← measure style rest
    return (sized.withPrecision (precision.getD 0), rest)
  | _ => return (sized, rest)

def lengthLetters : List Char := ['l', 'L', 'h', 'j', 't', 'z']

def accepts (text : List Char) (letter : Char) : Bool :=
  let flags := text.takeWhile PrintfStyle.system.flags.contains
  let none (letters : String) : Bool := !letters.toList.contains letter
  "aAcdeEfFgGiosuxX".toList.contains letter &&
    (!(flags.contains '\'' || flags.contains 'I') || none "aAceEosxX") &&
    (!flags.contains '#' || none "cdisu") && (!flags.contains '0' || none "cs") &&
    (!text.contains '.' || none "c")

/-- Prints the next argument under a directive with a letter. `header` is the directive up to the
letter. -/
def argument (style : PrintfStyle) (c : Text.Conversion) (header : List Char) (letter : Char) :
    Printer Unit := do
  let number := "diouxXaAeEfFgG".toList
  if letter = 'b' ∧ style.scripted then
    let text := (← next?).getD ""
    let (bytes, cut) := Text.unescape style.argument text.length text.toList
    put (c.text bytes)
    if cut then throw none
  else if letter = 's' then put (c.text ((← next?).getD "").toList)
  else if letter = 'c' then put (c.pad [((← next?).getD "").toList.headD '\x00'])
  else if letter = 'd' ∨ letter = 'i' then put (c.signed (← integer style true))
  else if number.contains letter ∧ "ouxX".toList.contains letter then
    put (c.unsigned letter (← integer style false).toNat)
  else if number.contains letter then put (c.floating style.precision letter (← floating style))
  else abort style ("%" ++ String.ofList (header ++ [letter]) ++ ": invalid directive")

def noHexDigits : String := "missing hexadecimal number in escape"

/-- Prints the escape `u` or `U` as the program of the system does, which cannot show characters
beyond ASCII; the rest of the text. -/
def unicode (letter : Char) (text : List Char) : Printer (List Char) := do
  let count := if letter = 'u' then 4 else 8
  let (digits, rest) := Text.takeDigits 16 count text
  if digits.length < count then abort .system noHexDigits
  else
    let value := Number.ofDigits 16 digits
    if [0x24, 0x40, 0x60].contains value ∨
        (0x9f < value ∧ ¬(0xd800 ≤ value ∧ value ≤ 0xdfff)) then
      if value < 0x80 then put [Char.ofNat value]
      else
        let least := if value < 0x10000 then 4 else 8
        let shown := Number.digits 16 true value
        put ('\\' :: (if value < 0x10000 then 'u' else 'U') ::
          (List.replicate (least - shown.length) '0' ++ shown))
      return rest
    else
      abort .system ("invalid universal character name \\" ++ letter.toString ++
        String.ofList digits)

def once (style : PrintfStyle) (fuel : Nat) (text : List Char) : Printer Unit := do
  match fuel, text with
  | 0, _ | _, [] => return
  | fuel + 1, '\\' :: rest =>
    match Text.escape style.format rest with
    | .cut => throw none
    | .byte byte rest =>
      put [byte]
      once style fuel rest
    | .plain =>
      match rest with
      | 'x' :: rest =>
        if style.scripted then
          put ['\\']
          once style fuel ('x' :: rest)
        else abort style noHexDigits
      | c :: rest =>
        if style.scripted then
          put ['\\']
          once style fuel (c :: rest)
        else if c = 'u' ∨ c = 'U' then once style fuel (← unicode c rest)
        else
          put ['\\', c]
          once style fuel rest
      | [] => put ['\\']
  | fuel + 1, '%' :: '%' :: rest =>
    put ['%']
    once style fuel rest
  | fuel + 1, '%' :: rest =>
    match style.scripted, rest with
    | false, 'b' :: rest =>
      if let some text ← next? then
        let (bytes, cut) := Text.unescape style.argument text.length text.toList
        put bytes
        if cut then throw none
      once style fuel rest
    | false, 'q' :: rest =>
      if let some text ← next? then put (Text.quoteIfNeeded false text).toList
      once style fuel rest
    | _, _ =>
      let (c, after) ← conversion style rest
      let header := rest.take (rest.length - after.length)
      let lettered := if style.scripted then after else after.dropWhile lengthLetters.contains
      let shown := "%" ++ String.ofList (rest.take (rest.length - lettered.tail.length))
      match lettered with
      | [] =>
        if style.scripted then abort style "missing format character"
        else abort style (shown ++ ": invalid conversion specification")
      | letter :: after =>
        if !style.scripted && !accepts header letter then
          abort style (shown ++ ": invalid conversion specification")
        else
          argument style c header letter
          once style fuel after
  | fuel + 1, c :: rest =>
    put [c]
    once style fuel rest

def repeated (style : PrintfStyle) (fuel : Nat) (format : List Char) : Printer Unit := do
  match fuel with
  | 0 => return
  | fuel + 1 =>
    let before := (← get).args.length
    once style format.length format
    let after := (← get).args
    if after ≠ [] then
      if after.length < before then repeated style fuel format
      else if !style.scripted then
        tell ("warning: ignoring excess arguments, starting with " ++
          Text.quotePlain (after.headD ""))

end Printer

/-- Prints arguments under a format. Output that an escape cuts off is a success for the program of
the system. -/
def printf (style : PrintfStyle) (format : String) (args : List String) : Printing :=
  match (Printer.repeated style (args.length + 1) format.toList).run { args } with
  | .ok _ p => p
  | .error none p => if style.scripted then p else { p with code := 0 }
  | .error (some code) p => { p with code }

end JobShell
