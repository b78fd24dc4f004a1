/-!
Quoting as programs do it in what they say: a text with one character for each byte is put so that
a shell would read it back, or between quotes with escapes.
-/

namespace JobShell.Text

def isPrintable (c : Char) : Bool :=
  ' ' ≤ c && c ≤ '~'

def escapeLetter? : Char → Option Char
  | '\x07' => some 'a'
  | '\x08' => some 'b'
  | '\x0c' => some 'f'
  | '\n' => some 'n'
  | '\r' => some 'r'
  | '\t' => some 't'
  | '\x0b' => some 'v'
  | _ => none

def escapeByte (c : Char) : List Char :=
  match escapeLetter? c with
  | some letter => ['\\', letter]
  | none =>
    let digit (n : Nat) : Char := Char.ofNat ('0'.toNat + n % 8)
    ['\\', digit (c.toNat / 64), digit (c.toNat / 8), digit c.toNat]

/-- Whether a shell would not read the character at place `i` of a text of the given length as
itself. -/
def isSpecial (length i : Nat) (c : Char) : Bool :=
  if c = '{' ∨ c = '}' then length == 1
  else if c = '#' ∨ c = '~' then i == 0
  else " !\"$&()*;<=>[^`|'?\\".toList.contains c || !isPrintable c

def fitsDoubleQuotes (c : Char) : Bool :=
  c.isAlphanum || "%+,-./:@]_' ".toList.contains c

/-- A text between single quotes, with what cannot be shown as escapes. `escaping` says whether the
last character was one. -/
def shellBody (escaping : Bool) : List Char → List Char
  | [] => []
  | c :: rest =>
    if c = '\'' then
      let leave := if escaping then ['\'', '\''] else []
      leave ++ "'\\''".toList ++ shellBody false rest
    else if isPrintable c then
      (if escaping then ['\'', '\''] else []) ++ c :: shellBody false rest
    else (if escaping then [] else "'$'".toList) ++ escapeByte c ++ shellBody true rest

def quoteAlways (text : String) : String :=
  if text.toList.contains '\'' && text.toList.all fitsDoubleQuotes then "\"" ++ text ++ "\""
  else "'" ++ String.ofList (shellBody false text.toList) ++ "'"

/-- A text as one word for a shell, quoted if that is needed; `colon` says whether a colon needs
it. -/
def quoteIfNeeded (colon : Bool) (text : String) : String :=
  let chars := text.toList
  let special := chars.zipIdx.any fun (c, i) =>
    isSpecial chars.length i c || (colon && c == ':')
  if chars = [] || special then quoteAlways text else text

def quotePlain (text : String) : String :=
  let body := text.toList.flatMap fun c =>
    if c = '\'' ∨ c = '\\' then ['\\', c]
    else if isPrintable c then [c]
    else escapeByte c
  "'" ++ String.ofList body ++ "'"

end JobShell.Text
