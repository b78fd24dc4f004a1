import JobShell.Command
import JobShell.Error
import JobShell.Files.Store

/-!
Where the streams of a child come from. A target on the command line wins; without one, a
background child uses the null device and a foreground child keeps the stream of the shell.
-/

namespace JobShell

def nullDevice : String := "/dev/null"

/-- The targets of the two streams; none keeps the stream as it is. -/
structure Redirections where
  input : Option String := none
  output : Option String := none
  deriving DecidableEq, Repr, Inhabited

structure Redirected where
  /-- The direction whose target could not be opened. -/
  failed : Option Direction
  streams : Streams
  store : Store

namespace Redirections

def ofCommand (command : Command) (background : Bool) : Redirections :=
  let fallback := if background then some nullDevice else none
  { input := command.input.or fallback, output := command.output.or fallback }

def target (r : Redirections) : Direction → Option String
  | .input => r.input
  | .output => r.output

def diagnostic (r : Redirections) (direction : Direction) : String :=
  (CommandError.redirection ((r.target direction).getD "") direction).message ++ "\n"

def applyOutput (r : Redirections) (cwd : NodeId) (streams : Streams) (store : Store) :
    Redirected :=
  match r.output with
  | none => { failed := none, streams, store }
  | some path =>
    match store.openForWriting streams.handle? cwd path redirectedMode .empty with
    | .ok (output, store) => { failed := none, streams := { streams with output }, store }
    | .error _ => { failed := some .output, streams, store }

/-- Redirects standard input, and then standard output unless that failed. -/
def apply (r : Redirections) (cwd : NodeId) (streams : Streams) (store : Store) : Redirected :=
  match r.input with
  | none => r.applyOutput cwd streams store
  | some path =>
    match store.openForReading streams.handle? cwd path with
    | .ok (input, store) => r.applyOutput cwd { streams with input } store
    | .error _ => { failed := some .input, streams, store }

/-- What is reached when an opening has to wait for the other end of a pipe, if one has to. `held` are
the files that others have open. -/
def stuck? (r : Redirections) (held : List Handle) (cwd : NodeId) (streams : Streams)
    (store : Store) : Option Redirected :=
  let first := { r with output := none }.apply cwd streams store
  let both := r.apply cwd streams store
  if r.input.isSome ∧ first.failed = none ∧ first.store.lacksPeer held first.streams.input then
    some first
  else if r.output.isSome ∧ both.failed = none ∧
      both.store.lacksPeer (both.streams.input :: held) both.streams.output then
    some both
  else none

/-- Up to where an opening has to wait, things go as with other targets. -/
theorem stuck?_apply {r : Redirections} {held : List Handle} {cwd : NodeId} {streams : Streams}
    {store : Store} {reached : Redirected} (h : r.stuck? held cwd streams store = some reached) :
    reached = { r with output := none }.apply cwd streams store ∨
      reached = r.apply cwd streams store := by
  unfold stuck? at h
  dsimp only at h
  split at h
  · exact .inl (Option.some.inj h).symm
  · split at h
    · exact .inr (Option.some.inj h).symm
    · cases h

@[simp] theorem ofCommand_foreground (command : Command) :
    ofCommand command false = { input := command.input, output := command.output } := by
  simp [ofCommand]

end Redirections

end JobShell
