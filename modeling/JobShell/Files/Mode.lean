import JobShell.Number.Integer

/-!
Modes of files as they are written: as an octal number, or as changes to the permissions of the
owner, the group and all others.
-/

namespace JobShell.FileMode

def everyone : Nat := 0o777

def all : Nat := 0o7777

def without (mode bits : Nat) : Nat :=
  mode - (mode &&& bits)

structure Change where
  /-- The bits of those it is for; none if they are not named. -/
  who : Option Nat
  operator : Char
  bits : Nat
  /-- Whether execute permission is meant only where somebody has it. -/
  conditional : Bool := false
  /-- The class whose permissions are copied, by its letter. -/
  copied : Option Char := none
  deriving DecidableEq, Repr

def classBits? : Char → Option Nat
  | 'u' => some 0o4700
  | 'g' => some 0o2070
  | 'o' => some 0o1007
  | 'a' => some all
  | _ => none

def permissionBits? : Char → Option Nat
  | 'r' => some 0o444
  | 'w' => some 0o222
  | 'x' => some 0o111
  | 'X' => some 0
  | 's' => some 0o6000
  | 't' => some 0o1000
  | _ => none

def readChanges (fuel : Nat) (who : Option Nat) (text : List Char) :
    Option (List Change × List Char) :=
  match fuel, text with
  | fuel + 1, operator :: rest =>
    if !(['+', '-', '='].contains operator) then some ([], text)
    else
      let (change, rest) : Change × List Char :=
        match rest with
        | c :: after =>
          if ['u', 'g', 'o'].contains c then ({ who, operator, bits := 0, copied := some c }, after)
          else
            let letters := rest.takeWhile fun c => (permissionBits? c).isSome
            let bits := letters.foldl (fun bits c => bits ||| (permissionBits? c).getD 0) 0
            ({ who, operator, bits, conditional := letters.contains 'X' }, rest.drop letters.length)
        | [] => ({ who, operator, bits := 0 }, [])
      (readChanges fuel who rest).map fun (later, rest) => (change :: later, rest)
  | _, text => some ([], text)

def readClauses (fuel : Nat) (text : List Char) : Option (List Change) :=
  match fuel with
  | 0 => none
  | fuel + 1 =>
    let letters := text.takeWhile fun c => (classBits? c).isSome
    let who := if letters = [] then none
      else some (letters.foldl (fun bits c => bits ||| (classBits? c).getD 0) 0)
    match readChanges text.length who (text.drop letters.length) with
    | some ([], _) | none => none
    | some (changes, []) => some changes
    | some (changes, ',' :: rest) => (readClauses fuel rest).map (changes ++ ·)
    | some _ => none

def spread (mode : Nat) : Char → Nat
  | 'u' => (mode / 64 % 8) * 0o111
  | 'g' => (mode / 8 % 8) * 0o111
  | _ => (mode % 8) * 0o111

/-- A mode of a directory after a change, and which bits were mentioned so far. -/
def Change.apply (umask : Nat) (state : Nat × Nat) (change : Change) : Nat × Nat :=
  let (mode, mentioned) := state
  let bits := match change.copied with
    | some c => spread mode c
    | none => if change.conditional then change.bits ||| 0o111 else change.bits
  let scope := match change.who with
    | some who => who
    | none => without all umask
  let bits := bits &&& scope
  match change.operator with
  | '+' => (mode ||| bits, mentioned ||| bits)
  | '-' => (without mode bits, mentioned ||| bits)
  | _ =>
    let cleared := without (change.who.getD all) 0o6000
    (without mode cleared ||| bits, mentioned ||| cleared ||| bits)

/-- The mode for a new directory that a text asks for, and the bits that it mentions; none if the
text is no mode. -/
def ofText? (umask : Nat) (text : String) : Option (Nat × Nat) :=
  let chars := text.toList
  if chars ≠ [] ∧ chars.all (Number.isDigit 8) then
    let mode := Number.ofDigits 8 chars
    if mode ≤ all then some (mode, all) else none
  else
    (readClauses (chars.length + 1) chars).map fun changes =>
      changes.foldl (Change.apply umask) (everyone, 0)

end JobShell.FileMode
