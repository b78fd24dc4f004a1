import JobShell.Number.Floating
import JobShell.Program.Arguments

/-!
The programs `true`, `false` and `sleep`.
-/

namespace JobShell.Sleep

/-- The clock's units in one second. -/
def second : Nat := 1000000

def endless : Nat := 1000000000000000000

def unit? : List Char → Option Nat
  | [] | ['s'] => some 1
  | ['m'] => some 60
  | ['h'] => some 3600
  | ['d'] => some 86400
  | _ => none

/-- How long a word asks to wait: a number that is not negative, and maybe a unit. -/
def duration? (word : String) : Option Nat :=
  match Number.readFloating? .extended word.toList with
  | some (value, rest) =>
    (unit? rest).bind fun unit =>
      match value with
      | .finite negative mantissa exponent =>
        if negative && mantissa != 0 then none
        else
          let (num, den) := Number.scaled (mantissa * second * unit) 1 exponent
          some (min endless (num / den))
      | .infinite false => some endless
      | _ => none
  | none => none

def sleep : Utility := fun invocation =>
  invocation.withArguments [] 1 fun args => do
    if args.operands = [] then invocation.misuse 1 "missing operand"
    else
      let times := args.operands.map fun word => (word, duration? word)
      let wrong := times.filter (·.2.isNone)
      wrong.forM fun (word, _) =>
        invocation.complain ("invalid time interval " ++ Text.quotePlain word)
      if wrong ≠ [] then invocation.refuse 1
      else
        Task.sleep ((times.filterMap Prod.snd).foldl (· + ·) 0)
        return 0

def success : Utility := fun _ => pure 0

def failure : Utility := fun _ => pure 1

end JobShell.Sleep
