import JobShell.Program.Cat
import JobShell.Program.Manage
import JobShell.Program.Remove
import JobShell.Program.Sh
import JobShell.Program.Sleep
import JobShell.Program.Sort
import JobShell.Program.Test
import JobShell.Task.Family

/-!
The programs of the system, by name.
-/

namespace JobShell.Programs

def plain : List (String × Utility) :=
  [("true", Sleep.success), ("false", Sleep.failure), ("echo", Print.echo), ("cat", Cat.cat),
    ("sort", Sort.sort), ("printf", Print.printf), ("pwd", Print.pwd), ("sleep", Sleep.sleep),
    ("mkdir", Manage.mkdir), ("rmdir", Manage.rmdir), ("rm", Remove.rm), ("mv", Manage.mv),
    ("touch", Manage.touch), ("test", Test.test), ("[", Test.bracket)]

def commandDepth : Nat := 20000

/-- What a process does that becomes a program. Scripts may run programs, which may be scripts
again, to a depth of `depth`. -/
def run (depth : Nat) (image : Image) (argv : List String) (vars : Variables) : Task UInt8 :=
  let words := image.words argv
  let invocation : Invocation := { name := words.headD "", args := words.tail, vars }
  match plain.lookup image.program, depth with
  | some utility, _ => utility invocation
  | none, 0 => Task.exit 127
  | none, depth + 1 =>
    Sh.sh (Script.interpreter (fun image argv vars => run depth image argv vars) commandDepth)
      invocation

def scriptDepth : Nat := 1000

def system : Programs := fun launch =>
  let image := match launch.image with
    | .binary program => .binary program
    | .script program leading => .script program (leading.map Text.raw)
  let vars := launch.exported.map fun (name, value) => (Text.raw name, Text.raw value)
  Task.start launch 0 (run scriptDepth image (launch.argv.map Text.raw) vars)

end JobShell.Programs
