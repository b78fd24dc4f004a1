/-!
The only expansion of the shell: two dollar signs stand for its process id. Pairs are taken from
the left, so of an odd run of dollar signs the last one stays.
-/

namespace JobShell

/-- Puts `pid` in place of each pair of dollar signs, from left to right. -/
def expandDollars (pid : List Char) : List Char → List Char
  | [] => []
  | '$' :: '$' :: rest => pid ++ expandDollars pid rest
  | c :: rest => c :: expandDollars pid rest

def expandPid (pid : UInt32) (text : String) : String :=
  String.ofList (expandDollars (toString pid.toNat).toList text.toList)

@[simp] theorem expandDollars_nil (pid : List Char) : expandDollars pid [] = [] := rfl

@[simp] theorem expandDollars_pair (pid rest : List Char) :
    expandDollars pid ('$' :: '$' :: rest) = pid ++ expandDollars pid rest := rfl

theorem expandDollars_cons {c : Char} (pid : List Char) (h : c ≠ '$') (rest : List Char) :
    expandDollars pid (c :: rest) = c :: expandDollars pid rest := by
  rw [expandDollars]
  intro tail hc
  exact absurd hc h

end JobShell
