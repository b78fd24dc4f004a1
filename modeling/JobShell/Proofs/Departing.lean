import JobShell.Proofs.Redirecting
import JobShell.Proofs.Steps
import Mathlib.Logic.Basic

/-!
How a child sets out. What can be opened and found says which way it goes: it gives up over its
input, or else over its output, or else over its program, or it becomes the program; or a pipe with a
name that nobody has opened at its other end keeps it waiting. Each way fixes what is written where,
what becomes of the files, and what the child does then.
-/

namespace JobShell

/-- Where a stream of a child is taken from, unless it is the one of the shell. -/
def Command.source (command : Command) (background : Bool) (direction : Direction) :
    Option String :=
  (command.target direction).or (if background then some "/dev/null" else none)

/-- Whoever opens the node has to wait: it is a pipe with a name, and none of the open files `held`
is its other end. -/
structure Store.Lonely (store : Store) (held : List Handle) (id : NodeId)
    (other : OpenFile → Bool) : Prop where
  named : ∃ mode content, store.files.get? id = some (.pipe (some mode) content)
  alone : ∀ handle ∈ held, ∀ file, store.opened[handle]? = some file → file.node = id →
    other file = false

/-- What becomes of a child before its program runs. -/
inductive Fate where
  | unreadable (path : String)
  | unwritable (path : String)
  | unexecutable
  | runs (image : Image)
  /-- It waits for somebody to open the other end of a pipe. -/
  | waits (direction : Direction)

namespace Image

variable {store : Store} {held : List Handle} {own : Nat → Option Handle} {cwd : NodeId}
  {path : String} {image : Image}

end Image

namespace Store.Writes

variable {store : Store} {own : Nat → Option Handle} {cwd id : NodeId} {path : String} {mode : Nat}
  {files : FileSystem}

/-- A path leads to one node. -/
theorem unique {other : NodeId} {otherFiles : FileSystem}
    (h : store.Writes own cwd path mode id files)
    (h' : store.Writes own cwd path mode other otherFiles) : other = id := by
  have opens := openForWriting_eq_ok_iff.mpr ⟨_, _, h, rfl⟩
  have opens' := openForWriting_eq_ok_iff.mpr ⟨_, _, h', rfl⟩
  have same := congrArg (fun opened => opened.2.opened.back?)
    (Except.ok.inj (opens'.symm.trans opens))
  simpa [push] using same

end Store.Writes

namespace Session

def streamState (s : Session) : StreamState :=
  { streams := s.machine.streams, store := s.machine.store }

variable (s : Session) (command : Command) (background : Bool)

def withInput : StreamState :=
  s.streamState.redirect s.machine.cwd { input := command.source background .input }

def withStreams : StreamState :=
  s.streamState.redirect s.machine.cwd
    { input := command.source background .input, output := command.source background .output }

def program : Except FileError Image :=
  Image.find (s.withStreams command background).store
    ((s.withStreams command background).streams.held ++ s.machine.held)
    (s.withStreams command background).streams.handle? s.machine.cwd s.shell.env.inherited
    command.argv

def Readable : Prop :=
  ∀ path, command.source background .input = some path →
    ∃ id, s.streamState.Reads s.machine.cwd path id

def Writable : Prop :=
  ∀ path, command.source background .output = some path →
    ∃ id files, (s.withInput command background).Writes s.machine.cwd path id files

/-- The input is a pipe that nobody has open for writing. -/
def AwaitsWriter : Prop :=
  ∃ path id, command.source background .input = some path ∧
    s.streamState.Reads s.machine.cwd path id ∧
    (s.withInput command background).store.Lonely s.machine.held id OpenFile.writes

/-- The output is a pipe that nobody has open for reading, not the child either. -/
def AwaitsReader : Prop :=
  ∃ path id files, command.source background .output = some path ∧
    (s.withInput command background).Writes s.machine.cwd path id files ∧
    (s.withStreams command background).store.Lonely
      ((s.withStreams command background).streams.input :: s.machine.held) id OpenFile.reads

/-- The child gets its input, and at once. -/
structure HasInput : Prop where
  readable : s.Readable command background
  unawaited : ¬ s.AwaitsWriter command background

/-- The child gets its output too, and at once. -/
structure HasStreams : Prop where
  input : s.HasInput command background
  writable : s.Writable command background
  unawaited : ¬ s.AwaitsReader command background

/-- What can be opened and found decides what becomes of the child. -/
inductive Meets : Fate → Prop
  | unreadable {path : String} (given : command.source background .input = some path)
      (closed : ∀ id, ¬ s.streamState.Reads s.machine.cwd path id) : Meets (.unreadable path)
  | unanswered (readable : s.Readable command background)
      (awaits : s.AwaitsWriter command background) : Meets (.waits .input)
  | unwritable {path : String} (input : s.HasInput command background)
      (given : command.source background .output = some path)
      (closed : ∀ id files, ¬ (s.withInput command background).Writes s.machine.cwd path id files) :
      Meets (.unwritable path)
  | unheard (input : s.HasInput command background) (writable : s.Writable command background)
      (awaits : s.AwaitsReader command background) : Meets (.waits .output)
  | unexecutable {error : FileError} (streams : s.HasStreams command background)
      (missing : s.program command background = .error error) : Meets .unexecutable
  | runs {image : Image} (streams : s.HasStreams command background)
      (found : s.program command background = .ok image) : Meets (.runs image)

/-- What is open for a child while it waits for the other end of a stream. -/
def reached : Direction → StreamState
  | .input => s.withInput command background
  | .output => s.withStreams command background

variable {s command background} {fate other : Fate} {programs : Programs}

private theorem not_readable {path : String} (given : command.source background .input = some path)
    (closed : ∀ id, ¬ s.streamState.Reads s.machine.cwd path id) :
    ¬ s.Readable command background := by
  intro readable
  obtain ⟨id, reads⟩ := readable path given
  exact closed id reads

private theorem not_writable {path : String} (given : command.source background .output = some path)
    (closed : ∀ id files, ¬ (s.withInput command background).Writes s.machine.cwd path id files) :
    ¬ s.Writable command background := by
  intro writable
  obtain ⟨id, files, writes⟩ := writable path given
  exact closed id files writes

/-- At most one thing becomes of a child. -/
theorem Meets.unique (h : s.Meets command background fate)
    (h' : s.Meets command background other) : other = fate := by
  cases h with
  | unreadable given closed =>
    have unreadable := not_readable given closed
    cases h' with
    | unreadable given' => rw [Option.some.inj (given'.symm.trans given)]
    | unanswered readable => exact absurd readable unreadable
    | unwritable input | unheard input => exact absurd input.readable unreadable
    | unexecutable streams | runs streams => exact absurd streams.input.readable unreadable
  | unanswered readable awaits =>
    cases h' with
    | unreadable given' closed' => exact absurd readable (not_readable given' closed')
    | unanswered => rfl
    | unwritable input | unheard input => exact absurd awaits input.unawaited
    | unexecutable streams | runs streams => exact absurd awaits streams.input.unawaited
  | unwritable input given closed =>
    have unwritable := not_writable given closed
    cases h' with
    | unreadable given' closed' => exact absurd input.readable (not_readable given' closed')
    | unanswered _ awaits => exact absurd awaits input.unawaited
    | unwritable _ given' => rw [Option.some.inj (given'.symm.trans given)]
    | unheard _ writable => exact absurd writable unwritable
    | unexecutable streams | runs streams => exact absurd streams.writable unwritable
  | unheard input writable awaits =>
    cases h' with
    | unreadable given' closed' => exact absurd input.readable (not_readable given' closed')
    | unanswered _ awaits' => exact absurd awaits' input.unawaited
    | unwritable _ given' closed' => exact absurd writable (not_writable given' closed')
    | unheard => rfl
    | unexecutable streams | runs streams => exact absurd awaits streams.unawaited
  | unexecutable streams missing =>
    cases h' with
    | unreadable given' closed' => exact absurd streams.input.readable (not_readable given' closed')
    | unanswered _ awaits => exact absurd awaits streams.input.unawaited
    | unwritable _ given' closed' => exact absurd streams.writable (not_writable given' closed')
    | unheard _ _ awaits => exact absurd awaits streams.unawaited
    | unexecutable => rfl
    | runs _ found => cases missing.symm.trans found
  | runs streams found =>
    cases h' with
    | unreadable given' closed' => exact absurd streams.input.readable (not_readable given' closed')
    | unanswered _ awaits => exact absurd awaits streams.input.unawaited
    | unwritable _ given' closed' => exact absurd streams.writable (not_writable given' closed')
    | unheard _ _ awaits => exact absurd awaits streams.unawaited
    | unexecutable _ missing => cases missing.symm.trans found
    | runs _ found' => rw [Except.ok.inj (found'.symm.trans found)]

def lost : Command :=
  { argv := ["/y"], output := some "out", text := "/y > out" }

/-- A session in which `/p` is a pipe, and `/s` is a text for `/x`. -/
def piped : Session :=
  { machine := .boot 2
      { nodes := #[.directory { parent := 0, entries := [("x", 1), ("p", 2), ("s", 3)] },
          .program "x", .pipe (some 0o644) [], .file 0o755 (Text.utf8 "#!/x\n")] }
      FileSystem.root [] (.file 0o644 []) 3 .interactive }

end Session

end JobShell
