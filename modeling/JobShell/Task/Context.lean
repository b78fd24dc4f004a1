import JobShell.Behaviour

/-!
What a running program has of its own, and what it sees of the machine when it asks for something.
-/

namespace JobShell.Task

structure Context where
  /-- The open files by their numbers. -/
  descriptors : List (Nat × Handle)
  cwd : NodeId
  /-- The bits of a mode that new files do not get. -/
  umask : Nat := 0
  ignored : List Signal := []
  caught : List Signal := []
  /-- The signals that were caught and not looked at yet. -/
  pending : List Signal := []
  deriving DecidableEq, Repr

namespace Context

def handle? (context : Context) (number : Nat) : Option Handle :=
  context.descriptors.lookup number

def setHandle (context : Context) (number : Nat) (handle : Handle) : Context :=
  { context with
    descriptors := (number, handle) :: context.descriptors.filter (·.1 != number) }

def close (context : Context) (number : Nat) : Context :=
  { context with descriptors := context.descriptors.filter (·.1 != number) }

def forProgram (context : Context) : Context :=
  { context with caught := [], pending := [] }

def modeOf (context : Context) (mode : Nat) : Nat :=
  mode - (mode &&& context.umask)

def reaction (context : Context) (signal : Signal) : Reaction :=
  if context.ignored.contains signal then .ignored
  else if context.caught.contains signal then .caught
  else .default

end Context

structure View where
  self : Pid
  parent : Pid
  store : Store
  context : Context
  /-- The children of the process, those that have ended with how they did. Leaving out one that has
  ended lets go of it. -/
  children : List (Pid × Option Ending)
  /-- The open files that other processes of its family have. -/
  elsewhere : List Handle
  /-- The other processes that a signal can reach. -/
  present : List Pid
  /-- The signals that the process sends. -/
  sent : List (Pid × Signal) := []

namespace View

def openFile? (view : View) (number : Nat) : Option OpenFile :=
  (view.context.handle? number).bind (view.store.opened[·]?)

def held (view : View) : List Handle :=
  view.context.descriptors.map Prod.snd ++ view.elsewhere

def isOpen (view : View) (node : NodeId) (way : OpenFile → Bool) : Bool :=
  view.store.hasOpen view.held node way

end View

end JobShell.Task
