import JobShell.Task.Context

/-!
Running programs as trees of requests. A `Task` is a piece of a program: given what is to be done
with its result, it says what the process does. Tasks are put together with `do`.
-/

namespace JobShell.Task

inductive Proc : Type 1 where
  | exit (code : UInt8)
  /-- Asks for something; none means that it has to wait and ask again. -/
  | call {α : Type} (request : View → Option (α × View)) (next : α → Proc)
  | sleep (time : Nat) (next : Proc)
  /-- Starts another process with a copy of its own context. -/
  | fork (child : Proc) (next : Pid → Proc)

end Task

def Task (α : Type) : Type 1 :=
  (α → Task.Proc) → Task.Proc

namespace Task

instance : Monad Task where
  pure a := fun next => next a
  bind task f := fun next => task fun a => f a next

def request {α : Type} (ask : View → Option (α × View)) : Task α :=
  fun next => .call ask next

def change {α : Type} (f : View → α × View) : Task α :=
  request fun view => some (f view)

def look {α : Type} (f : View → α) : Task α :=
  change fun view => (f view, view)

def modifyContext (f : Context → Context) : Task Unit :=
  change fun view => ((), { view with context := f view.context })

def sleep (time : Nat) : Task Unit :=
  fun next => .sleep time (next ())

def exit {α : Type} (code : UInt8) : Task α :=
  fun _ => .exit code

def fork (child : Task UInt8) : Task Pid :=
  fun next => .fork (child .exit) next

def proc (task : Task UInt8) : Proc :=
  task .exit

/-- Sends a signal to a process. Tells whether there is one. -/
def send (pid : Pid) (signal : Signal) : Task Bool :=
  change fun view =>
    if pid = view.self ∨ pid ∈ view.present then
      (true, { view with sent := view.sent ++ [(pid, signal)] })
    else (false, view)

end Task

end JobShell
