import JobShell.Proofs.Elapse
import JobShell.Proofs.Telling

/-!
What running one command can do to a session, case by case: what it returns or fails with, and what
it leaves behind on every way out.
-/

namespace JobShell

/-- A command that is not run by the shell itself. -/
structure Command.IsExternal (command : Command) : Prop where
  words : command.argv ≠ []
  name : Builtin.ofName? command.name = none

structure Command.IsExit (command : Command) : Prop where
  words : command.argv ≠ []
  name : Builtin.ofName? command.name = some .exit

namespace Session

/-- A child was started for a command with the given text. Time has gone by, and perhaps the child
was waited for, but the shell remembers and has said nothing else than before. -/
structure Started (s : Session) (text : String) (child : Child) (s' : Session) : Prop where
  children : s.machine.children.Joined child s'.machine.children
  history : ∃ launches : List Launch,
    s'.history = s.history ++ .created child.pid text :: launches.map .launched
  shell : s'.shell = s.shell
  written : s'.writer.written = s.writer.written
  fault : s'.writer.fault = s.writer.fault
  pid : s'.machine.pid = s.machine.pid
  cwd : s'.machine.cwd = s.machine.cwd
  streams : s'.machine.streams = s.machine.streams

/-- The state after every background job was asked to terminate and forgotten. -/
def exited (s : Session) : Session :=
  { s with
    shell := { s.shell with jobs := [], shouldExit := true }
    machine.children := s.shell.jobs.foldl (fun c job => c.signal job.pid .terminate)
      s.machine.children
    history := s.history ++ s.shell.jobs.map fun job => .signaled job.pid .terminate }

/-- The state after a background child was put on record. -/
def listing (s : Session) (pid : Pid) (text : String) : Session :=
  { s with shell.jobs := s.shell.jobs.insert pid text }

def forked (s : Session) : Session :=
  { s with forks := s.forks + 1 }

def Moved (s s' : Session) : Prop :=
  ∃ cwd dir, s' = { s with machine.cwd := cwd, shell.env.currentDir := dir }

/-- What running a command comes to: its status or error, and the state it leaves. -/
inductive Executed (s : Session) (command : Command) : Except CommandError Status → Session → Prop
  | noWords (words : command.argv = []) : Executed s command (.ok s.shell.status) s
  | exited (isExit : command.IsExit) : Executed s command (.ok s.shell.status) s.exited
  | moved {s' : Session} (words : command.argv ≠ [])
      (name : Builtin.ofName? command.name = some .cd) (moved : s.Moved s') :
      Executed s command (.ok s.shell.status) s'
  | reported {s' : Session} (words : command.argv ≠ [])
      (name : Builtin.ofName? command.name = some .status)
      (told : s.Told [s.shell.status.text] none s') :
      Executed s command (.ok s.shell.status) s'
  | unreported {s' : Session} {e : CommandError} (words : command.argv ≠ [])
      (name : Builtin.ofName? command.name = some .status)
      (told : s.Told [s.shell.status.text] (some e) s') :
      Executed s command (.error e) s'
  | nul (external : command.IsExternal) (hasNul : hasNul command.argv = true) :
      Executed s command (.error (.nulInArgument command.name)) s
  | unflushed {s' : Session} {e : CommandError} (external : command.IsExternal)
      (noNul : hasNul command.argv = false) (told : s.Told [] (some e) s') :
      Executed s command (.error e) s'
  | unspawned {s' : Session} {fault : Fault} (external : command.IsExternal)
      (noNul : hasNul command.argv = false) (told : s.Told [] none s')
      (refuses : s.refusal s.forks = some fault) :
      Executed s command (.error (.spawn fault)) s'.forked
  | ended {s' : Session} {child : Child} {ending answer : Ending} (external : command.IsExternal)
      (noNul : hasNul command.argv = false)
      (foreground : (command.background && s.shell.mode.allowsBackground) = false)
      (started : s.Started command.text child s') (gone : child.state = .gone ending)
      (answers : endAnswer ending = .ok answer) (granted : s.refusal s.forks = none) :
      Executed s command (.ok answer.status.collapsed) s'
  | unanswered {s' : Session} {child : Child} {ending : Ending} {fault : Fault}
      (external : command.IsExternal) (noNul : hasNul command.argv = false)
      (foreground : (command.background && s.shell.mode.allowsBackground) = false)
      (started : s.Started command.text child s') (gone : child.state = .gone ending)
      (fails : endAnswer ending = .error fault) (granted : s.refusal s.forks = none) :
      Executed s command (.error (.wait child.pid fault)) s'
  | announced {between s' : Session} {child : Child} (external : command.IsExternal)
      (noNul : hasNul command.argv = false)
      (background : (command.background && s.shell.mode.allowsBackground) = true)
      (started : s.Started command.text child between) (held : child.state.isHeld = true)
      (told : (between.listing child.pid command.text).Told [startedLine child.pid] none s')
      (granted : s.refusal s.forks = none) :
      Executed s command (.ok s.shell.status) s'
  | unannounced {between s' : Session} {child : Child} {e : CommandError}
      (external : command.IsExternal) (noNul : hasNul command.argv = false)
      (background : (command.background && s.shell.mode.allowsBackground) = true)
      (started : s.Started command.text child between) (held : child.state.isHeld = true)
      (told : (between.listing child.pid command.text).Told [startedLine child.pid] (some e) s')
      (granted : s.refusal s.forks = none) :
      Executed s command (.error e) s'

variable {s s' s'' : Session} {command : Command}

/-- An external command is not started, and then children and jobs stay as they are; or its child
comes and goes, or its job is put on record. -/
theorem Executed.external_cases {result : Except CommandError Status}
    (h : s.Executed command result s') (external : command.IsExternal) :
    (hasNul command.argv = true ∨ s.writer.fault s.writer.operations .flush ≠ none ∨
        s.refusal s.forks ≠ none) ∧
      s'.shell.jobs = s.shell.jobs ∧ s'.machine.children = s.machine.children ∨
    s.refusal s.forks = none ∧
      ((command.background && s.shell.mode.allowsBackground) = false ∧ (∃ child ending,
        s.Started command.text child s' ∧ child.state = .gone ending ∧
        result = match endAnswer ending with
          | .ok answer => .ok answer.status.collapsed
          | .error fault => .error (.wait child.pid fault)) ∨
      (command.background && s.shell.mode.allowsBackground) = true ∧ ∃ child between error,
        s.Started command.text child between ∧ child.state.isHeld = true ∧
        (between.listing child.pid command.text).Told [startedLine child.pid] error s') := by
  have builtin {name : Builtin} (h : Builtin.ofName? command.name = some name) : False := by
    simp [external.name] at h
  cases h with
  | noWords words => exact absurd words external.words
  | exited isExit => exact (builtin isExit.name).elim
  | moved _ name => exact (builtin name).elim
  | reported _ name => exact (builtin name).elim
  | unreported _ name => exact (builtin name).elim
  | nul _ hasNul => exact .inl ⟨.inl hasNul, rfl, rfl⟩
  | unflushed _ _ told =>
    refine .inl ⟨.inr (.inl ?_), congrArg Shell.jobs told.shell, told.children⟩
    cases told with
    | cut count short => simp at short
    | unflushed wrote takes fault =>
      intro none
      cases none.symm.trans fault
  | unspawned _ _ told refuses =>
    exact .inl ⟨.inr (.inr (by simp [refuses])), congrArg Shell.jobs told.shell, told.children⟩
  | ended _ _ foreground started gone answers granted =>
    exact .inr ⟨granted, .inl ⟨foreground, _, _, started, gone, by rw [answers]⟩⟩
  | unanswered _ _ foreground started gone fails granted =>
    exact .inr ⟨granted, .inl ⟨foreground, _, _, started, gone, by rw [fails]⟩⟩
  | announced _ _ background started held told granted =>
    exact .inr ⟨granted, .inr ⟨background, _, _, _, started, held, told⟩⟩
  | unannounced _ _ background started held told granted =>
    exact .inr ⟨granted, .inr ⟨background, _, _, _, started, held, told⟩⟩

/-- What an external command comes to once its child could be started: the child has come and gone,
or its job was put on record. -/
theorem Executed.of_external {result : Except CommandError Status}
    (h : s.Executed command result s') (external : command.IsExternal)
    (noNul : hasNul command.argv = false)
    (flushes : s.writer.fault s.writer.operations .flush = none)
    (granted : s.refusal s.forks = none) :
    ((command.background && s.shell.mode.allowsBackground) = false ∧ ∃ child ending,
      s.Started command.text child s' ∧ child.state = .gone ending ∧
      result = match endAnswer ending with
        | .ok answer => .ok answer.status.collapsed
        | .error fault => .error (.wait child.pid fault)) ∨
    ((command.background && s.shell.mode.allowsBackground) = true ∧ ∃ child between error,
      s.Started command.text child between ∧ child.state.isHeld = true ∧
      (between.listing child.pid command.text).Told [startedLine child.pid] error s') := by
  obtain ⟨nul | unflushed | refused, -⟩ | ⟨-, started⟩ := h.external_cases external
  · cases noNul.symm.trans nul
  · exact absurd flushes unflushed
  · exact absurd granted refused
  · exact started

/-- What becomes of a child after its start goes on its account. -/
theorem Started.elapses {text : String} {child : Child} (h : s.Started text child s')
    {m : Machine} (he : s'.machine.Elapses none m) :
    ∃ child', child.Lives none child' ∧ s.Started text child' { s' with machine := m } := by
  obtain ⟨child', hlives, hj⟩ := h.children.live he.children
  obtain ⟨launches, hh⟩ := h.history
  exact ⟨child', hlives,
    { children := hj
      history := ⟨launches, by rw [hlives.pid]; exact hh⟩
      shell := h.shell
      written := h.written
      fault := h.fault
      pid := he.pid.trans h.pid
      cwd := he.cwd.trans h.cwd
      streams := he.streams.trans h.streams }⟩

private theorem terminate_run (jobs : List Job) (s : Session) :
    (jobs.forM (m := Action) fun job => do
      modifyMachine fun m => { m with children := m.children.signal job.pid .terminate }
      note (.signaled job.pid .terminate)).run s = .ok ()
      { s with
        machine.children := jobs.foldl (fun c job => c.signal job.pid .terminate)
          s.machine.children
        history := s.history ++ jobs.map fun job => .signaled job.pid .terminate } := by
  induction jobs generalizing s with
  | nil => simp
  | cons job rest ih =>
    refine (ih _).trans ?_
    simp [List.append_assoc]

theorem exit_run (s : Session) : Builtin.runExit.run s = .ok s.shell.status s.exited := by
  have hdrain : s.shell.jobs.drain s.shell.jobs.length = (s.shell.jobs, []) := by
    simp [Registry.drain]
  have hterm := terminate_run s.shell.jobs s
  simp only [Builtin.runExit, EStateM.run_bind, EStateM.run_get, hdrain, hterm]
  rfl

theorem cd_run (args : List String) (s : Session) :
    ∃ s', (Builtin.runCd args).run s = .ok s.shell.status s' ∧ s.Moved s' := by
  have still : s.Moved s := ⟨s.machine.cwd, s.shell.env.currentDir, rfl⟩
  simp only [Builtin.runCd, EStateM.run_bind, EStateM.run_get]
  split
  · exact ⟨s, rfl, still⟩
  · split
    · exact ⟨s, rfl, still⟩
    · next id canonical _ => exact ⟨_, rfl, id, canonical, rfl⟩

theorem status_run (s : Session) :
    (∃ s', Builtin.runStatus.run s = .ok s.shell.status s' ∧
        s.Told [s.shell.status.text] none s') ∨
      ∃ e s', Builtin.runStatus.run s = .error e s' ∧
        s.Told [s.shell.status.text] (some e) s' := by
  have htell : Builtin.runStatus.run s =
      match (tell [s.shell.status.text]).run s with
      | .ok _ s' => .ok s.shell.status s'
      | .error e s' => .error e s' := by
    simp only [Builtin.runStatus, tell, List.forM, EStateM.run_bind, EStateM.run_get]
    cases (writeLine s.shell.status.text).run s with
    | ok _ s' =>
      cases hf : flush.run s' <;> simp [hf]
    | error e s' => rfl
  rw [htell]
  rcases tell_run [s.shell.status.text] s with ⟨s', hrun, told⟩ | ⟨e, s', hrun, told⟩
  · exact .inl ⟨s', by rw [hrun], told⟩
  · exact .inr ⟨e, s', by rw [hrun], told⟩

variable {programs : Programs}

theorem fork_run (s : Session) :
    fork.run s =
      match s.refusal s.forks with
      | some fault => .error (.spawn fault) s.forked
      | none => .ok () s.forked := by
  simp only [fork, EStateM.run_bind, EStateM.run_get, EStateM.run_set]
  cases s.refusal s.forks <;> rfl

/-- The state right after a child was started. -/
def departed (programs : Programs) (s : Session) (command : Command) (background : Bool) :
    Session :=
  let departure := Departure.make programs s command background
  { s with
    machine.store := departure.store
    machine.children :=
      (s.machine.children.start (.forChild background) departure.behaviour).2
    history := s.history ++ .created s.machine.children.next command.text ::
      departure.launch.toList.map .launched }

theorem startChild_run (programs : Programs) (s : Session) (command : Command)
    (background : Bool) :
    (startChild programs command background).run s = .ok s.machine.children.next
      (if background then
        { departed programs s command background with
          machine := (departed programs s command background).machine.advance 1 }
      else departed programs s command background) := by
  simp only [startChild, EStateM.run_bind, EStateM.run_get]
  cases hl : (Departure.make programs s command background).launch <;> cases background <;>
    simp [departed, hl, modifyMachine, note, Children.start, -bind_pure_comp]

private theorem departed_started (programs : Programs) (s : Session) (command : Command)
    (background : Bool) : ∃ child, s.Started command.text child
        (departed programs s command background) ∧
      ((∃ since behaviour, child.state = .running since behaviour) ∨
        ∃ ending, child.state = .ended ending) := by
  obtain ⟨child, hj, hstate⟩ := s.machine.children.start_joined (.forChild background)
    (Departure.make programs s command background).behaviour
  refine ⟨child, ⟨hj, ⟨(Departure.make programs s command background).launch.toList, ?_⟩,
    rfl, rfl, rfl, rfl, rfl, rfl⟩, hstate⟩
  rw [hj.number]
  rfl

theorem waitForeground_run {pid : Pid} {answer : Except Fault Ending} {between : Machine}
    (d : Session) :
    Machine.await { d.machine with signals := d.machine.signals.block } pid = (answer, between) →
    (waitForeground pid).run d =
      match answer with
      | .ok ending => .ok ending.status.collapsed
        { d with machine := { between with signals := between.signals.unblock } }
      | .error fault => .error (.wait pid fault)
        { d with machine := { between with signals := between.signals.unblock } } := by
  intro h
  simp only [waitForeground, modifyMachine, EStateM.run_bind, EStateM.run_modify, EStateM.run_get, h]
  cases answer <;> rfl

private theorem foreground_run (programs : Programs) (command : Command)
    (hn : s.machine.children.Numbered) :
    ∃ child ending s', s.Started command.text child s' ∧ child.state = .gone ending ∧
      (startChild programs command false >>= waitForeground).run s =
        match endAnswer ending with
        | .ok answer => .ok answer.status.collapsed s'
        | .error fault => .error (.wait child.pid fault) s' := by
  obtain ⟨first, started, hstate⟩ := departed_started programs s command false
  have hrun := startChild_run programs s command false
  rw [← started.children.number] at hrun
  generalize departed programs s command false = d at started hrun
  have hblock : d.machine.Elapses none { d.machine with signals := d.machine.signals.block } :=
    ⟨rfl, rfl, rfl, .refl _ _⟩
  obtain ⟨ending, between, htime, hended, hawait⟩ := Machine.await_eq
    (m := { d.machine with signals := d.machine.signals.block }) (hn.joined started.children)
    started.children.mem hstate
  obtain ⟨child, hlives, waited⟩ := started.elapses (hblock.trans htime)
  have hchild : child.state = .ended ending := by
    have h := (hn.joined waited.children).state?_eq waited.children.mem
    rw [hlives.pid] at h
    exact Option.some.inj (h.symm.trans hended)
  have hj := waited.children.release hn
  rw [hlives.pid] at hj
  refine ⟨child.released, ending,
    { d with machine := { between with
      children := between.children.release first.pid
      signals := between.signals.unblock } },
    ⟨hj, ?_, waited.shell, waited.written, waited.fault, waited.pid, waited.cwd, waited.streams⟩,
    ?_, ?_⟩
  · rw [child.released_pid]
    exact waited.history
  · rw [child.released_state, hchild]
    rfl
  · rw [EStateM.run_bind, hrun]
    simp only [Bool.false_eq_true, if_false, waitForeground_run d hawait, child.released_pid,
      hlives.pid]

private theorem background_run (programs : Programs) (command : Command)
    (hn : s.machine.children.Numbered) :
    ∃ child between, s.Started command.text child between ∧ child.state.isHeld = true ∧
      (do
        let pid ← startChild programs command true
        recordBackground pid command.text).run s =
        match (tell [startedLine child.pid]).run (between.listing child.pid command.text) with
        | .ok _ s' => .ok s'.shell.status s'
        | .error e s' => .error e s' := by
  obtain ⟨first, started, hstate⟩ := departed_started programs s command true
  have hrun := startChild_run programs s command true
  rw [← started.children.number] at hrun
  generalize departed programs s command true = d at started hrun
  have hheld : first.state.isHeld = true := by
    rcases hstate with ⟨_, _, h⟩ | ⟨_, h⟩ <;> rw [h] <;> rfl
  obtain ⟨child, hlives, later⟩ :=
    started.elapses (Machine.advance_elapses (hn.joined started.children) 1)
  refine ⟨child, _, later, hlives.held.trans hheld, ?_⟩
  rw [EStateM.run_bind, hrun]
  simp only [if_true, recordBackground, modifyShell, tell, List.forM, EStateM.run_bind,
    EStateM.run_modify, EStateM.run_get, hlives.pid, listing]
  cases (writeLine (startedLine first.pid)).run
    { d with
      machine := d.machine.advance 1
      shell.jobs := d.shell.jobs.insert first.pid command.text } with
  | ok _ s' => cases hf : flush.run s' <;> simp [hf]
  | error e s' => rfl

private def split :
    EStateM.Result CommandError Session Status → Except CommandError Status × Session
  | .ok status s => (.ok status, s)
  | .error e s => (.error e, s)

private theorem started_told (h : Told s [] none s') {text : String} {child : Child}
    (started : s'.forked.Started text child s'') : s.Started text child s'' where
  children := h.children ▸ started.children
  history := by
    obtain ⟨launches, hl⟩ := started.history
    exact ⟨launches, by rw [hl, forked, h.history]⟩
  shell := started.shell.trans h.shell
  written := by
    obtain ⟨count, wrote, _⟩ := h.wrote
    rw [started.written, forked, wrote.written]
    simp
  fault := started.fault.trans h.fault
  pid := started.pid.trans (by rw [forked, h.machine])
  cwd := started.cwd.trans (by rw [forked, h.machine])
  streams := started.streams.trans (by rw [forked, h.machine])

private theorem runChild_split (programs : Programs) (external : command.IsExternal)
    (noNul : hasNul command.argv = false) (hn : s.machine.children.Numbered) :
    ∃ result s', split ((runChild programs command
      (command.background && s.shell.mode.allowsBackground)).run s) = (result, s') ∧
      s.Executed command result s' := by
  have hflush : flush.run s = (tell []).run s := rfl
  simp only [runChild, EStateM.run_bind, hflush]
  rcases tell_run [] s with ⟨t, hrun, told⟩ | ⟨e, t, hrun, told⟩
  · have hnt : t.forked.machine.children.Numbered := told.children ▸ hn
    have hrefusal : t.refusal t.forks = s.refusal s.forks := by
      obtain ⟨_, wrote, _⟩ := told.wrote
      rw [wrote.rest]
    simp only [hrun, fork_run, hrefusal]
    cases granted : s.refusal s.forks with
    | some fault => exact ⟨_, _, rfl, .unspawned external noNul told granted⟩
    | none =>
      cases hb : command.background && s.shell.mode.allowsBackground with
      | false =>
        obtain ⟨child, ending, s', started, gone, hchild⟩ := foreground_run programs command hnt
        simp only [Bool.false_eq_true, if_false]
        rw [← EStateM.run_bind, hchild]
        cases ha : endAnswer ending with
        | ok answer =>
          exact ⟨_, _, rfl, .ended external noNul hb (started_told told started) gone ha granted⟩
        | error fault =>
          exact ⟨_, _, rfl, .unanswered external noNul hb (started_told told started) gone ha granted⟩
      | true =>
        obtain ⟨child, between, started, held, hchild⟩ := background_run programs command hnt
        simp only [if_true]
        rw [← EStateM.run_bind, hchild]
        have hstarted := started_told told started
        rcases tell_run [startedLine child.pid] (between.listing child.pid command.text) with
          ⟨s', hrun, announced⟩ | ⟨e, s', hrun, announced⟩
        · have hstatus : s'.shell.status = s.shell.status := by
            rw [announced.shell, listing, hstarted.shell]
          rw [hrun]
          exact ⟨_, _, rfl, hstatus ▸ .announced external noNul hb hstarted held announced granted⟩
        · rw [hrun]
          exact ⟨_, _, rfl, .unannounced external noNul hb hstarted held announced granted⟩
  · rw [hrun]
    exact ⟨_, _, rfl, .unflushed external noNul told⟩

private theorem execute_split (programs : Programs) (command : Command)
    (hn : s.machine.children.Numbered) :
    ∃ result s', split ((execute programs command).run s) = (result, s') ∧
      s.Executed command result s' := by
  simp only [execute, EStateM.run_bind, EStateM.run_get]
  split
  · next words => exact ⟨_, _, rfl, .noWords words⟩
  · next words =>
    split
    · next builtin name =>
      cases builtin with
      | exit => exact ⟨_, _, by rw [Builtin.run, exit_run]; rfl, .exited ⟨words, name⟩⟩
      | cd =>
        obtain ⟨s', hrun, moved⟩ := cd_run command.args s
        exact ⟨_, _, by rw [Builtin.run, hrun]; rfl, .moved words name moved⟩
      | status =>
        rcases status_run s with ⟨s', hrun, told⟩ | ⟨e, s', hrun, told⟩
        · exact ⟨_, _, by rw [Builtin.run, hrun]; rfl, .reported words name told⟩
        · exact ⟨_, _, by rw [Builtin.run, hrun]; rfl, .unreported words name told⟩
    · next name =>
      have external : command.IsExternal := ⟨words, name⟩
      simp only [runExternal, EStateM.run_bind, EStateM.run_get]
      split
      · next hasNul => exact ⟨_, _, rfl, .nul external hasNul⟩
      · next noNul => exact runChild_split programs external (by simpa using noNul) hn

/-- Every way in which running a command can go. -/
theorem execute_run (programs : Programs) (command : Command) (hn : s.machine.children.Numbered) :
    (∃ status s', (execute programs command).run s = .ok status s' ∧
        s.Executed command (.ok status) s') ∨
      ∃ e s', (execute programs command).run s = .error e s' ∧ s.Executed command (.error e) s' := by
  obtain ⟨result, s', hsplit, executed⟩ := execute_split programs command hn
  cases hrun : (execute programs command).run s with
  | ok status t =>
    rw [hrun] at hsplit
    obtain ⟨rfl, rfl⟩ := Prod.mk.inj hsplit
    exact .inl ⟨status, t, rfl, executed⟩
  | error e t =>
    rw [hrun] at hsplit
    obtain ⟨rfl, rfl⟩ := Prod.mk.inj hsplit
    exact .inr ⟨e, t, rfl, executed⟩

end Session

end JobShell
