/-!
The two streams that a command line can redirect.
-/

namespace JobShell

inductive Direction where
  | input
  | output
  deriving DecidableEq, Repr

namespace Direction

def name : Direction → String
  | input => "input"
  | output => "output"

def operator : Direction → Char
  | input => '<'
  | output => '>'

def ofWord? (word : String) : Option Direction :=
  if word = "<" then some input else if word = ">" then some output else none

theorem ofWord?_operator (direction : Direction) :
    ofWord? direction.operator.toString = some direction := by
  cases direction <;> decide

theorem ofWord?_eq_some {word : String} {direction : Direction} :
    ofWord? word = some direction ↔ word = direction.operator.toString := by
  constructor
  · intro h
    unfold ofWord? at h
    split at h
    · next hw => cases h; exact hw
    · split at h
      · next hw => cases h; exact hw
      · cases h
  · rintro rfl
    exact ofWord?_operator direction

end Direction

end JobShell
