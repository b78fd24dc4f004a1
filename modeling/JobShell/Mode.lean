/-!
The two modes of the shell. In foreground-only mode a trailing `&` has no effect.
-/

namespace JobShell

inductive Mode where
  | interactive
  | foregroundOnly
  deriving DecidableEq, Repr, Inhabited

namespace Mode

def toggled : Mode → Mode
  | interactive => foregroundOnly
  | foregroundOnly => interactive

def allowsBackground (mode : Mode) : Bool :=
  mode == interactive

def announcement : Mode → String
  | interactive => "Exiting foreground-only mode"
  | foregroundOnly => "Entering foreground-only mode (& is now ignored)"

@[simp] theorem toggled_toggled (mode : Mode) : mode.toggled.toggled = mode := by
  cases mode <;> rfl

theorem eq_toggled_of_ne {mode other : Mode} (h : other ≠ mode) : other = mode.toggled := by
  cases mode <;> cases other <;> first | rfl | exact absurd rfl h

end Mode

end JobShell
