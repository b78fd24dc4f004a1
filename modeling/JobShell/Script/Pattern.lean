/-!
Patterns: a star stands for any text, a question mark for any character and brackets for one of
some characters. Quoted characters stand for themselves, and so does one after a backslash.
-/

namespace JobShell.Script

abbrev Pattern := List (Char × Bool)

namespace Pattern

def ofText (text : List Char) : Pattern :=
  text.map fun c => (c, true)

/-- Whether a character is in a class that has a name; none if there is no such class. -/
def inClass? (name : String) (c : Char) : Option Bool :=
  let graphic : Bool := '!' ≤ c && c ≤ '~'
  match name with
  | "alnum" => some c.isAlphanum
  | "alpha" => some c.isAlpha
  | "blank" => some (c == ' ' || c == '\t')
  | "cntrl" => some (c < ' ' || c == '\x7f')
  | "digit" => some c.isDigit
  | "graph" => some graphic
  | "lower" => some c.isLower
  | "print" => some (graphic || c == ' ')
  | "punct" => some (graphic && !c.isAlphanum)
  | "space" => some (c == ' ' || ('\t' ≤ c && c ≤ '\r'))
  | "upper" => some c.isUpper
  | "xdigit" => some (c.isDigit || ('a' ≤ c && c ≤ 'f') || ('A' ≤ c && c ≤ 'F'))
  | _ => none

def className : Pattern → Option (List Char × Pattern)
  | (':', _) :: (']', false) :: rest => some ([], rest)
  | (c, _) :: rest => (className rest).map fun (name, rest) => (c :: name, rest)
  | [] => none

/-- Reads the class after a bracket: whether the character is in it, and what follows. -/
def class? (c : Char) : Pattern → Option (Bool × Pattern)
  | (':', false) :: rest =>
    (className rest).bind fun (name, rest) =>
      (inClass? (String.ofList name) c).map fun found => (found, rest)
  | _ => none

def unescape : Pattern → Option (Char × Pattern)
  | ('\\', false) :: (c, _) :: rest => some (c, rest)
  | (c, _) :: rest => some (c, rest)
  | [] => none

/-- Reads a set up to the closing bracket, at most `fuel` characters of it: whether the character is
in it, and what follows; none if it is not closed. -/
def inSet? (fuel : Nat) (c : Char) (found : Bool) (pattern : Pattern) : Option (Bool × Pattern) :=
  match fuel with
  | 0 => none
  | fuel + 1 =>
    let goOn (found : Bool) (rest : Pattern) : Option (Bool × Pattern) :=
      match rest with
      | (']', false) :: rest => some (found, rest)
      | _ => inSet? fuel c found rest
    let asClass? :=
      match pattern with
      | ('[', false) :: rest => class? c rest
      | _ => none
    match asClass? with
    | some (member, rest) => goOn (found || member) rest
    | none =>
      match unescape pattern with
      | none => none
      | some (first, rest) =>
        match rest with
        | ('-', false) :: last :: more =>
          if last = (']', false) then goOn (found || c == first) rest
          else
            match unescape (last :: more) with
            | some (last, rest) => goOn (found || (first ≤ c && c ≤ last)) rest
            | none => none
        | _ => goOn (found || c == first) rest

def set? (c : Char) (pattern : Pattern) : Option (Bool × Pattern) :=
  let read (pattern : Pattern) : Option (Bool × Pattern) :=
    inSet? (pattern.length + 1) c false pattern
  match pattern with
  | ('!', false) :: rest => (read rest).map fun (found, rest) => (!found, rest)
  | _ => read pattern

def matchesWithin (fuel : Nat) (pattern : Pattern) (text : List Char) : Bool :=
  match fuel with
  | 0 => pattern.isEmpty && text.isEmpty
  | fuel + 1 =>
    let same (c : Char) (rest : Pattern) : Bool :=
      match text with
      | d :: text => c == d && matchesWithin fuel rest text
      | [] => false
    match pattern with
    | [] => text.isEmpty
    | ('\\', false) :: (c, _) :: rest => same c rest
    | ('?', false) :: rest =>
      match text with
      | _ :: text => matchesWithin fuel rest text
      | [] => false
    | ('*', false) :: rest =>
      (List.range (text.length + 1)).any fun n => matchesWithin fuel rest (text.drop n)
    | ('[', false) :: rest =>
      match text with
      | [] => false
      | c :: text =>
        match set? c rest with
        | some (found, rest) => found && matchesWithin fuel rest text
        | none => same '[' rest
    | (c, _) :: rest => same c rest

def accepts (pattern : Pattern) (text : List Char) : Bool :=
  matchesWithin (pattern.length + 1) pattern text

def isSpecial : Pattern → Bool
  | ('\\', false) :: _ :: rest => isSpecial rest
  | (c, quoted) :: rest => (!quoted && (c == '*' || c == '?' || c == '[')) || isSpecial rest
  | [] => false

def text : Pattern → List Char
  | ('\\', false) :: (c, _) :: rest => c :: text rest
  | (c, _) :: rest => c :: text rest
  | [] => []

def trimStart (pattern : Pattern) (greedy : Bool) (text : List Char) : List Char :=
  let lengths := List.range (text.length + 1)
  let order := if greedy then lengths.reverse else lengths
  match order.find? fun n => pattern.accepts (text.take n) with
  | some n => text.drop n
  | none => text

def trimEnd (pattern : Pattern) (greedy : Bool) (text : List Char) : List Char :=
  let lengths := List.range (text.length + 1)
  let order := if greedy then lengths else lengths.reverse
  match order.find? fun n => pattern.accepts (text.drop n) with
  | some n => text.take n
  | none => text

@[simp] theorem accepts_nil_nil : accepts [] [] = true := rfl

end Pattern

end JobShell.Script
