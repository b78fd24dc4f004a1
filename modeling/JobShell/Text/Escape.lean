import JobShell.Number.Integer

/-!
Backslash escapes in the arguments of programs that print. A text has one character for each byte;
an escape can name any byte.
-/

namespace JobShell.Text

structure EscapeStyle where
  /-- Whether a zero before an octal number does not count as one of its three digits. -/
  zeroFirst : Bool := false
  /-- Whether two hexadecimal digits may follow an x. -/
  hex : Bool := false
  /-- Whether an escape can end the output. -/
  cuts : Bool := true
  /-- Whether a double quote can be escaped. -/
  quote : Bool := false
  deriving DecidableEq, Repr

inductive Escaped where
  /-- A byte, and the text after the escape. -/
  | byte (byte : Char) (rest : List Char)
  /-- Nothing more is to be printed. -/
  | cut
  | plain
  deriving DecidableEq, Repr

def control? : Char → Option Char
  | 'a' => some '\x07'
  | 'b' => some '\x08'
  | 'e' => some '\x1b'
  | 'f' => some '\x0c'
  | 'n' => some '\n'
  | 'r' => some '\r'
  | 't' => some '\t'
  | 'v' => some '\x0b'
  | '\\' => some '\\'
  | _ => none

def takeDigits (base count : Nat) (text : List Char) : List Char × List Char :=
  let digits := (text.take count).takeWhile (Number.isDigit base)
  (digits, text.drop digits.length)

/-- The byte with a value, of which the low eight bits count. -/
def byteOf (value : Nat) : Char :=
  Char.ofNat (value % 256)

def escape (style : EscapeStyle) (text : List Char) : Escaped :=
  match text with
  | [] => .plain
  | c :: rest =>
    match control? c with
    | some byte => .byte byte rest
    | none =>
      if c = 'c' ∧ style.cuts then .cut
      else if c = '"' ∧ style.quote then .byte c rest
      else if c = 'x' ∧ style.hex then
        match takeDigits 16 2 rest with
        | ([], _) => .plain
        | (digits, rest) => .byte (byteOf (Number.ofDigits 16 digits)) rest
      else
        match takeDigits 8 3 (if c = '0' ∧ style.zeroFirst then rest else text) with
        | ([], rest) => if c = '0' then .byte '\x00' rest else .plain
        | (digits, rest) => .byte (byteOf (Number.ofDigits 8 digits)) rest

/-- A text with its escapes taken out, and whether one of them ended it. A backslash that starts no
escape stands for itself. At most `fuel` characters are looked at. -/
def unescape (style : EscapeStyle) (fuel : Nat) (text : List Char) : List Char × Bool :=
  match fuel, text with
  | 0, _ => ([], false)
  | _, [] => ([], false)
  | fuel + 1, '\\' :: rest =>
    match escape style rest with
    | .cut => ([], true)
    | .byte byte rest =>
      let (later, cut) := unescape style fuel rest
      (byte :: later, cut)
    | .plain =>
      let (later, cut) := unescape style fuel rest
      ('\\' :: later, cut)
  | fuel + 1, c :: rest =>
    let (later, cut) := unescape style fuel rest
    (c :: later, cut)

end JobShell.Text
