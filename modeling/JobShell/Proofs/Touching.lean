import JobShell.Proofs.Coupling
import JobShell.Proofs.Effects
import JobShell.Proofs.Seeking
import JobShell.Proofs.Trees

/-!
What the built-in commands touch. They run in the shell whatever is attached to them: they start no
child and open no file, and each of them changes only what is its own.
-/

namespace JobShell

namespace FileSystem

variable {fs later last : FileSystem} {id : NodeId} {content : Bytes}

/-- Files may have been written, and none is new, has another name or is shorter. -/
structure Overwrites (fs later : FileSystem) : Prop where
  nodes : later.nodes.size = fs.nodes.size
  directories : ∀ id, later.directory? id = fs.directory? id
  content : ∀ id, (fs.content id).length ≤ (later.content id).length

theorem Overwrites.refl (fs : FileSystem) : fs.Overwrites fs :=
  ⟨rfl, fun _ => rfl, fun _ => Nat.le_refl _⟩

theorem Overwrites.trans (first : fs.Overwrites later) (second : later.Overwrites last) :
    fs.Overwrites last where
  nodes := second.nodes.trans first.nodes
  directories id := (second.directories id).trans (first.directories id)
  content id := Nat.le_trans (first.content id) (second.content id)

private theorem overwrites_set {old node : Node} (h : fs.get? id = some old)
    (oldPlain : old.IsPlain) (plain : node.IsPlain)
    (longer : (fs.content id).length ≤ ((fs.set id node).content id).length) :
    fs.Overwrites (fs.set id node) := by
  have self := get?_set_self (lt_size_of_get? h) node
  refine ⟨size_set fs id node, fun other => ?_, fun other => ?_⟩
  · by_cases he : other = id
    · rw [he, directory?_of_isPlain self plain, directory?_of_isPlain h oldPlain]
    · exact directory?_congr (get?_set_of_ne fs node he)
  · by_cases he : other = id
    · exact he ▸ longer
    · rw [FileSystem.content, FileSystem.content, get?_set_of_ne fs node he]

private theorem overwrites_setContent (longer : (fs.content id).length ≤ content.length) :
    fs.Overwrites (fs.setContent id content) := by
  unfold setContent
  split
  · next h =>
    refine overwrites_set h trivial trivial (Nat.le_trans longer (Nat.le_of_eq ?_))
    rw [FileSystem.content, get?_set_self (lt_size_of_get? h)]
  · next h =>
    refine overwrites_set h trivial trivial (Nat.le_trans longer (Nat.le_of_eq ?_))
    rw [FileSystem.content, get?_set_self (lt_size_of_get? h)]
  · exact .refl fs

end FileSystem

namespace Store

variable {store later : Store} {handle : Handle}

private theorem length_overwrite (content : Bytes) (offset : Nat) (bytes : Bytes) :
    content.length ≤ (overwrite content offset bytes).length := by
  unfold overwrite
  split
  · exact Nat.le_refl _
  · simp only [List.length_append, List.length_take, List.length_replicate, List.length_drop]
    omega

private theorem write_overwrites {bytes : Bytes} (h : store.write handle bytes = .ok later) :
    store.files.Overwrites later.files := by
  unfold write at h
  split at h
  · cases h
  · next file _ =>
    split at h
    · cases h
    · split at h
      · split at h
        · obtain rfl := Except.ok.inj h
          exact .refl _
        · cases h
      · next content found =>
        obtain rfl := Except.ok.inj h
        refine FileSystem.overwrites_setContent ?_
        simp [FileSystem.content, found]
      · obtain rfl := Except.ok.inj h
        exact FileSystem.overwrites_setContent (length_overwrite _ _ _)

private theorem writeText_overwrites (store : Store) (handle : Handle) (text : String) :
    store.files.Overwrites (store.writeText handle text).files := by
  unfold writeText tryWrite
  split
  · next h => exact write_overwrites h
  · exact .refl _

end Store

/-- Since then no file was opened or made, none was given another name, and none is shorter. -/
structure Store.Unopened (before store : Store) : Prop where
  opened : store.opened.size = before.opened.size
  files : before.files.Overwrites store.files

namespace Builtin

def name : Builtin → String
  | exit => "exit"
  | cd => "cd"
  | status => "status"

private theorem ofName?_eq_some_iff {name : String} {builtin : Builtin} :
    ofName? name = some builtin ↔ name = builtin.name := by
  constructor
  · intro h
    unfold ofName? at h
    split at h
    · obtain rfl := Option.some.inj h
      rfl
    · obtain rfl := Option.some.inj h
      rfl
    · obtain rfl := Option.some.inj h
      rfl
    · cases h
  · rintro rfl
    cases builtin <;> rfl

private theorem ofName?_eq_none_iff {name : String} :
    ofName? name = none ↔ ∀ builtin : Builtin, name ≠ builtin.name := by
  rw [Option.eq_none_iff_forall_ne_some]
  exact forall_congr' fun builtin => not_congr ofName?_eq_some_iff

/-- What a built-in command leaves as it was. Nothing is said of what is its own: the directory of
`cd`, the jobs of `exit`, the words of `status`. -/
structure Frame (builtin : Builtin) (s t : Session) : Prop where
  status : t.shell.status = s.shell.status
  mode : t.shell.mode = s.shell.mode
  vars : t.shell.env.vars = s.shell.env.vars
  inherited : t.shell.env.inherited = s.shell.env.inherited
  directory : builtin ≠ .cd →
    t.shell.env.currentDir = s.shell.env.currentDir ∧ t.machine.cwd = s.machine.cwd
  jobs : builtin ≠ .exit →
    t.shell.jobs = s.shell.jobs ∧ t.shell.shouldExit = s.shell.shouldExit ∧
      t.machine.children = s.machine.children ∧ t.history = s.history
  output : builtin ≠ .status → t.writer = s.writer ∧ t.machine.store = s.machine.store
  /-- No child is created. -/
  children : t.machine.children.pids = s.machine.children.pids ∧
    t.machine.children.next = s.machine.children.next
  /-- At most some children are asked to terminate. -/
  history : ∃ asked : List Pid, t.history = s.history ++ asked.map (.signaled · .terminate)
  store : s.machine.store.Unopened t.machine.store
  process : t.machine.pid = s.machine.pid ∧ t.machine.streams = s.machine.streams ∧
    t.machine.signals = s.machine.signals
  ahead : t.ahead = s.ahead

private theorem run_congr {builtin : Builtin} {args words : List String}
    (first : builtin = .cd → words.head? = args.head?) : builtin.run args = builtin.run words := by
  cases builtin with
  | exit => rfl
  | cd => simp only [run, runCd, cdTarget, first rfl]
  | status => rfl

variable {s t : Session}

private theorem unopened_speech (before : Store) :
    Session.SameSpeech (Session.Both fun u => before.Unopened u.machine.store) := by
  refine Session.both_speech (fun _ _ h => h) fun u text h => ?_
  dsimp only
  split
  · exact ⟨(Store.size_writeText text).trans h.opened,
      h.files.trans (Store.writeText_overwrites _ _ text)⟩
  · exact h

private theorem unopened_of_leaves (args : List String) (builtin : Builtin)
    (leaves : Session.Leaves (builtin.run args) s t) :
    s.machine.store.Unopened t.machine.store := by
  have keeps := Session.both_builtin (unopened_speech s.machine.store) (fun _ h => h)
    (by rintro u _ ⟨cwd, dir, rfl⟩ h; exact h) args builtin
  exact keeps.holds_of_leaves (s := s) ⟨rfl, .refl _⟩ leaves

private theorem frame_exited (unopened : s.machine.store.Unopened s.exited.machine.store) :
    Builtin.exit.Frame s s.exited where
  status := rfl
  mode := rfl
  vars := rfl
  inherited := rfl
  directory _ := ⟨rfl, rfl⟩
  jobs h := absurd rfl h
  output _ := ⟨rfl, rfl⟩
  children :=
    have live := Session.foldl_signal_live s.shell.jobs s.machine.children
    ⟨live.pids_eq, live.next⟩
  history := ⟨s.shell.jobs.map (·.pid), by simp [Session.exited, Function.comp_def]⟩
  store := unopened
  process := ⟨rfl, rfl, rfl⟩
  ahead := rfl

private theorem frame_of_moved (moved : s.Moved t)
    (unopened : s.machine.store.Unopened t.machine.store) : Builtin.cd.Frame s t := by
  obtain ⟨cwd, dir, rfl⟩ := moved
  exact
    { status := rfl, mode := rfl, vars := rfl, inherited := rfl
      directory := fun h => absurd rfl h
      jobs := fun _ => ⟨rfl, rfl, rfl, rfl⟩
      output := fun _ => ⟨rfl, rfl⟩
      children := ⟨rfl, rfl⟩
      history := ⟨[], by simp⟩
      store := unopened
      process := ⟨rfl, rfl, rfl⟩
      ahead := rfl }

private theorem frame_of_told {lines : List String} {error : Option CommandError}
    (told : s.Told lines error t) (unopened : s.machine.store.Unopened t.machine.store) :
    Builtin.status.Frame s t where
  status := by rw [told.shell]
  mode := by rw [told.shell]
  vars := by rw [told.shell]
  inherited := by rw [told.shell]
  directory _ := ⟨by rw [told.shell], told.cwd⟩
  jobs _ := ⟨by rw [told.shell], by rw [told.shell], told.children, told.history⟩
  output h := absurd rfl h
  children := ⟨by rw [told.children], by rw [told.children]⟩
  history := ⟨[], by simp [told.history]⟩
  store := unopened
  process := by rw [told.machine]; exact ⟨rfl, rfl, rfl⟩
  ahead := by
    obtain ⟨_, wrote, _⟩ := told.wrote
    rw [wrote.rest]

private theorem run_frame (args : List String) (builtin : Builtin) (s : Session) :
    (∃ t, (builtin.run args).run s = .ok s.shell.status t ∧ builtin.Frame s t ∧
        (builtin = .status → s.Wrote [s.shell.status.text] t)) ∨
      builtin = .status ∧ ¬ s.writer.Works ∧ ∃ text t,
        (builtin.run args).run s = .error (.output text) t ∧ builtin.Frame s t := by
  have unopened {t : Session} := unopened_of_leaves (s := s) (t := t) args builtin
  cases builtin with
  | exit =>
    have hrun := Session.exit_run s
    exact .inl ⟨_, hrun, frame_exited (unopened (.inl ⟨_, hrun⟩)), by simp⟩
  | cd =>
    obtain ⟨t, hrun, moved⟩ := Session.cd_run args s
    exact .inl ⟨t, hrun, frame_of_moved moved (unopened (.inl ⟨_, hrun⟩)), by simp⟩
  | status =>
    rcases Session.status_run s with ⟨t, hrun, told⟩ | ⟨e, t, hrun, told⟩
    · refine .inl ⟨t, hrun, frame_of_told told (unopened (.inl ⟨_, hrun⟩)), fun _ => ?_⟩
      cases told with
      | whole wrote => exact wrote
    · obtain ⟨text, rfl⟩ := told.error_eq
      refine .inr ⟨rfl, fun works => ?_, text, t, hrun,
        frame_of_told told (unopened (.inr ⟨_, hrun⟩))⟩
      cases (told.of_works works).1

end Builtin

namespace Session

variable {programs : Programs} {s : Session} {command : Command}

private theorem execute_builtin (programs : Programs) {builtin : Builtin}
    (called : command.name = builtin.name) :
    execute programs command = builtin.run command.args := by
  have words : command.argv ≠ [] := by
    intro none
    rw [Command.name, none] at called
    cases builtin <;> simp [Builtin.name] at called
  funext s
  change (execute programs command).run s = (builtin.run command.args).run s
  simp only [execute, EStateM.run_bind, EStateM.run_get, words, if_false,
    Builtin.ofName?_eq_some_iff.mpr called]

private theorem execute_other (programs : Programs)
    (other : ∀ builtin : Builtin, command.name ≠ builtin.name) :
    execute programs command =
      if command.argv = [] then (do return (← get).shell.status)
      else runExternal programs command := by
  have name : Builtin.ofName? command.name = none := Builtin.ofName?_eq_none_iff.mpr other
  by_cases words : command.argv = []
  · rw [if_pos words]
    funext s
    change (execute programs command).run s = .ok s.shell.status s
    simp only [execute, EStateM.run_bind, EStateM.run_get, words, if_true]
    rfl
  · rw [if_neg words]
    funext s
    change (execute programs command).run s = (runExternal programs command).run s
    simp only [execute, EStateM.run_bind, EStateM.run_get, words, if_false, name]

private theorem status_line_run (programs : Programs) (works : s.writer.Works) {line : String}
    (parses : parse line s.pid = .ok (some command)) (called : command.name = "status") :
    ∃ t, (runLine programs line).run s = .ok () t ∧ s.Wrote [s.shell.status.text] t := by
  have executes : execute programs command = Builtin.status.run command.args :=
    execute_builtin programs called
  rcases Builtin.status.run_frame command.args s with ⟨t, hrun, frame, wrote⟩ | ⟨-, fails, -⟩
  · rw [← executes] at hrun
    refine ⟨t, ?_, wrote rfl⟩
    -- the status that is remembered is the one that was
    have same : t.remembering s.shell.status = t := by rw [remembering, ← frame.status]
    simp only [runLine_run parses, executeOrComplain_ok hrun, same]
  · exact absurd works fails

/-- However often `status` is called in a row, it says the same. -/
theorem status_lines_run (programs : Programs) (works : s.writer.Works) (lines : List String)
    (calls : ∀ line ∈ lines, ∃ command, parse line s.pid = .ok (some command) ∧
      command.name = "status") :
    ∃ t, (lines.forM (runLine programs)).run s = .ok () t ∧
      s.Wrote (List.replicate lines.length s.shell.status.text) t := by
  induction lines generalizing s with
  | nil => exact ⟨s, rfl, rfl, rfl, by simp⟩
  | cons line rest ih =>
    obtain ⟨⟨command, parses, called⟩, callsRest⟩ := List.forall_mem_cons.mp calls
    obtain ⟨t, hrun, wrote⟩ := status_line_run programs works parses called
    have worksThen : t.writer.Works := by
      intro number operation
      rw [wrote.fault, works]
    have samePid : t.pid = s.pid := by rw [pid, wrote.machine, pid]
    obtain ⟨u, hrest, wroteRest⟩ := ih worksThen (by rwa [samePid])
    refine ⟨u, ?_, ?_⟩
    · change (do runLine programs line; rest.forM (runLine programs)).run s = _
      rw [EStateM.run_bind, hrun]
      exact hrest
    · have all := wrote.trans wroteRest
      rwa [wrote.shell] at all

/-- A built-in command is the same whatever is attached to it, and only `cd` looks at a word behind
its name. It keeps the status and tells it unless the writer fails, and stays in its frame. Every
other command that has words is a program. A row of lines that call `status` says the same as often
as it is called, and changes nothing else. -/
theorem builtins_stay_inside (programs : Programs) (command : Command) :
    (∀ builtin : Builtin, command.name = builtin.name →
      (∀ text, execute programs command = execute programs
        { command with input := none, output := none, background := false, text }) ∧
      (∀ words : List String, (builtin = .cd → words.head? = command.args.head?) →
        execute programs command =
          execute programs { command with argv := builtin.name :: words }) ∧
      ∀ s, (∃ t, (execute programs command).run s = .ok s.shell.status t ∧ builtin.Frame s t ∧
          (builtin = .status → s.Wrote [s.shell.status.text] t)) ∨
        builtin = .status ∧ ¬ s.writer.Works ∧ ∃ text t,
          (execute programs command).run s = .error (.output text) t ∧ builtin.Frame s t) ∧
    ((∀ builtin : Builtin, command.name ≠ builtin.name) →
      Builtin.ofName? command.name = none ∧
      execute programs command =
        if command.argv = [] then (do return (← get).shell.status)
        else runExternal programs command) ∧
    ∀ (s : Session) (lines : List String), s.writer.Works →
      (∀ line ∈ lines, ∃ command, parse line s.pid = .ok (some command) ∧
        command.name = "status") →
      ∃ t, (lines.forM (runLine programs)).run s = .ok () t ∧
        s.Wrote (List.replicate lines.length s.shell.status.text) t := by
  refine ⟨fun builtin called => ⟨fun text => ?_, fun words first => ?_, fun s => ?_⟩,
    fun other => ⟨Builtin.ofName?_eq_none_iff.mpr other, execute_other programs other⟩,
    fun s lines works calls => status_lines_run programs works lines calls⟩
  · have bare : execute programs { argv := command.argv, text } = builtin.run command.args :=
      execute_builtin programs called
    exact (execute_builtin programs called).trans bare.symm
  · rw [execute_builtin programs called, execute_builtin programs rfl]
    exact Builtin.run_congr first
  · rw [execute_builtin programs called]
    exact Builtin.run_frame command.args builtin s

/-- What is attached to `status` does not matter, and neither does how often it is called. -/
theorem builtins_stay_inside_status :
    let programs : Programs := fun _ => .atOnce (.exited 0)
    let command : Command :=
      { argv := ["status", "--help", ""], input := some "in", output := some "out"
        background := true }
    let lines := ["status", "status -- > out &"]
    command.name = Builtin.status.name ∧ bare.writer.Works ∧
      (∃ t, (execute programs command).run bare = .ok .success t ∧ Builtin.status.Frame bare t ∧
        bare.Wrote ["exit value 0"] t) ∧
      (∀ builtin : Builtin, ({ argv := ["statuses"] } : Command).name ≠ builtin.name) ∧
      execute programs { argv := ["statuses"] } = runExternal programs { argv := ["statuses"] } ∧
      ∃ t, (lines.forM (runLine programs)).run bare = .ok () t ∧
        bare.Wrote ["exit value 0", "exit value 0"] t := by
  intro programs command lines
  have works : bare.writer.Works := fun _ _ => rfl
  have other : ∀ builtin : Builtin, ({ argv := ["statuses"] } : Command).name ≠ builtin.name := by
    intro builtin
    cases builtin <;> decide
  have calls : ∀ line ∈ lines, ∃ command, parse line bare.pid = .ok (some command) ∧
      command.name = "status" := by
    have first : parse "status" bare.pid = .ok (some { argv := ["status"], text := "status" }) := by
      decide +kernel
    have second : parse "status -- > out &" bare.pid = .ok (some
        { argv := ["status", "--"], output := some "out", background := true
          text := "status -- > out &" }) := by
      decide +kernel
    intro line hm
    rcases List.mem_pair.mp hm with rfl | rfl
    · exact ⟨_, first, rfl⟩
    · exact ⟨_, second, rfl⟩
  obtain ⟨-, others, rows⟩ := builtins_stay_inside programs { argv := ["statuses"] }
  obtain ⟨-, -, stays⟩ := (builtins_stay_inside programs command).1 .status rfl
  rcases stays bare with ⟨t, hrun, frame, wrote⟩ | ⟨-, fails, -⟩
  · exact ⟨rfl, works, ⟨t, hrun, frame, wrote rfl⟩, other, (others other).2,
      rows bare lines works calls⟩
  · exact absurd works fails

end Session

end JobShell
