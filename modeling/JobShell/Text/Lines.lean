import JobShell.Text.Grapheme
import JobShell.Text.Utf8

/-!
The lines of an input that does not come from a terminal.
-/

namespace JobShell.Text

def lineFeed : UInt8 := 10

def carriageReturn : UInt8 := 13

def trimLineEnd (line : Bytes) : Bytes :=
  if line.getLast? = some lineFeed then
    let line := line.dropLast
    if line.getLast? = some carriageReturn then line.dropLast else line
  else line

def splitLine (bytes : Bytes) : Bytes × Bytes :=
  match bytes with
  | [] => ([], [])
  | b :: rest =>
    if b = lineFeed then ([b], rest)
    else
      let (line, rest) := splitLine rest
      (b :: line, rest)

inductive LineReading where
  | line (text : String)
  | notText
  /-- A backspace would cut a character in two. -/
  | cut
  deriving DecidableEq, Repr

def readTyped (line : Bytes) : LineReading :=
  match decode? (trimLineEnd line) with
  | none => .notText
  | some text =>
    match applyBackspaces text with
    | some typed => .line typed
    | none => .cut

theorem splitLine_append (bytes : Bytes) : (splitLine bytes).1 ++ (splitLine bytes).2 = bytes := by
  induction bytes with
  | nil => rfl
  | cons b rest ih => by_cases h : b = lineFeed <;> simp [splitLine, h, ih]

end JobShell.Text
