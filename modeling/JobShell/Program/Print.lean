import JobShell.Program.Arguments
import JobShell.Program.Printf

/-!
The programs that only print: `echo`, `printf` and `pwd`.
-/

namespace JobShell.Print

def echoStyle : Text.EscapeStyle :=
  { zeroFirst := true, hex := true }

def isEchoOption (word : String) : Bool :=
  match word.toList with
  | '-' :: letters => letters != [] && letters.all ['n', 'e', 'E'].contains
  | _ => false

def echoText (args : List String) : String :=
  let options := (args.takeWhile isEchoOption).flatMap fun word => word.toList.tail
  let text := String.intercalate " " (args.dropWhile isEchoOption)
  let newline := if options.contains 'n' then "" else "\n"
  match options.reverse.find? fun c => c == 'e' || c == 'E' with
  | some 'e' =>
    let (text, cut) := Text.unescape echoStyle text.length text.toList
    String.ofList text ++ if cut then "" else newline
  | _ => text ++ newline

def echo : Utility := fun invocation =>
  invocation.finish (echoText invocation.args) 0 1

/-- Says what was said about arguments, each after what had been printed before it; `shown` characters
were printed already. What is left to print. -/
def report (invocation : Invocation) (messages : List (Nat × String)) (shown : Nat)
    (output : List Char) : Task (List Char) := do
  match messages with
  | [] => return output
  | (place, message) :: rest =>
    let _ ← Task.write 1 (String.ofList (output.take (place - shown)))
    invocation.complain message
    report invocation rest place (output.drop (place - shown))

def printf : Utility := fun invocation => do
  match (if invocation.args.head? = some "--" then invocation.args.tail else invocation.args) with
  | [] => invocation.misuse 1 "missing operand"
  | format :: args =>
    let printing := JobShell.printf .system format args
    let rest ← report invocation printing.messages 0 printing.output
    invocation.finish (String.ofList rest) printing.code 1

def isPlainPath (path : String) : Bool :=
  isAbsolute path && (pathNames path).all fun name => name != "." && name != ".."

def namedDirectory? (vars : Variables) : Task (Option String) := do
  match vars.get? "PWD" with
  | none => return none
  | some path =>
    if !isPlainPath path then return none
    match ← Task.stat path true with
    | .ok (id, _) =>
      let cwd ← Task.look (·.context.cwd)
      return if id = cwd then some path else none
    | .error _ => return none

def workingDirectory? : Task (Option String) :=
  Task.look fun view => (view.store.files.pathOf? view.context.cwd).map Text.raw

def pwd : Utility := fun invocation =>
  invocation.withArguments [.flag 'L' "logical", .flag 'P' "physical"] 1 fun args => do
    if args.operands ≠ [] then invocation.complain "ignoring non-option arguments"
    let named ←
      if args.lastOf? ["logical", "physical"] = some "logical" then namedDirectory? invocation.vars
      else pure none
    match named with
    | some path => invocation.finish (path ++ "\n") 0 1
    | none =>
      match ← workingDirectory? with
      | some path => invocation.finish (path ++ "\n") 0 1
      | none =>
        invocation.complain
          "couldn't find directory entry in '..' with matching i-node"
        return 1

end JobShell.Print
