import JobShell.Files.Store
import JobShell.Status

/-!
What a child does from its start to its end, seen from the shell: deeds with time between them, and
an answer to every signal that may come meanwhile. What the child has started may go on after its
end. Every behaviour comes to an end if it is left alone, because it is a tree without endless
branches.
-/

namespace JobShell

abbrev Pid := Int

/-- A time that no session lasts. -/
def forever : Nat := 1000000000000000000

structure Scene where
  store : Store
  /-- The processes outside its own family that a signal can reach. -/
  present : List Pid
  deriving DecidableEq, Repr

structure Deed where
  store : Store
  /-- The signals sent to processes outside its own family, in order. -/
  sent : List (Pid × Signal) := []
  deriving DecidableEq, Repr

inductive Reaction where
  | default
  | ignored
  | caught
  deriving DecidableEq, Repr

inductive Activity where
  | quiet
  /-- After a delay something is done, which decides how it goes on. Meanwhile the files `holds` are
  open. -/
  | later (delay : Nat) (deed : Scene → Deed) (next : Scene → Activity) (holds : List Handle)

def Activity.holds : Activity → List Handle
  | quiet => []
  | later _ _ _ holds => holds

inductive Behaviour where
  | ended (ending : Ending) (rest : Activity)
  /-- After a delay something is done, which decides how it goes on. A signal that is caught before
  that makes it go on in another way, depending on the time that has gone by; what is left if the
  child is killed depends on that too. Meanwhile the files `holds` are open. -/
  | later (delay : Nat) (deed : Scene → Deed) (next : Scene → Behaviour)
      (reaction : Signal → Reaction) (caught : Signal → Nat → Behaviour) (rest : Nat → Activity)
      (holds : List Handle)

namespace Behaviour

/-- The files that are open until something is done. -/
def holds : Behaviour → List Handle
  | ended _ _ => []
  | later _ _ _ _ _ _ holds => holds

def atOnce (ending : Ending) : Behaviour :=
  ended ending .quiet

def sleeping (time : Nat) (ending : Ending) : Behaviour :=
  later time (fun scene => { store := scene.store }) (fun _ => atOnce ending) (fun _ => .default)
    (fun _ _ => atOnce ending) (fun _ => .quiet) []

def waiting (reaction : Signal → Reaction) (holds : List Handle) : Behaviour :=
  later forever (fun scene => { store := scene.store }) (fun _ => atOnce (.killed .kill)) reaction
    (fun _ _ => atOnce (.killed .kill)) (fun _ => .quiet) holds

def doing (deed : Scene → Deed) (ending : Scene → Ending) : Behaviour :=
  later 0 deed (fun scene => atOnce (ending scene)) (fun _ => .default)
    (fun _ _ => atOnce (.exited 0)) (fun _ => .quiet) []

end Behaviour

end JobShell
