import JobShell.Proofs.Accounts
import JobShell.Proofs.Coupling
import JobShell.Proofs.Muttering
import JobShell.Proofs.Speech

/-!
When finished jobs are reported does not matter to anything else. A session with reports is compared
with the one without them: they come to differ in the jobs on record, in which of the children that
have ended were waited for, and in what the shell has written to its output, none of which the shell
or its children notice. What the reports tell is owed to the jobs that were started, whenever it is
told.
-/

namespace JobShell

def SessionStep.isReport : SessionStep → Bool
  | .report => true
  | _ => false

private theorem Child.Resembles.holds_eq {ι : Type} {same : ι → Store → Store → Prop}
    {child other : Child} (h : child.Resembles same other) : other.holds = child.holds := by
  cases h with
  | equal => rfl
  | @finished ending state ends ends' =>
    unfold Child.holds
    cases hs : child.state <;> cases state <;> simp_all [ChildState.ending?]

private theorem Machine.Resembles.held_eq {ι : Type} {same : ι → Store → Store → Prop} {way : ι}
    {m m' : Machine} (h : m.Resembles same way m') : m'.held = m.held := by
  obtain ⟨⟨each⟩, -⟩ := h
  unfold Machine.held
  dsimp only
  generalize m.children.all = children at each
  refine congrArg (m.streams.held ++ ·) ?_
  induction each with
  | nil => rfl
  | cons first rest ih => rw [List.flatMap_cons, List.flatMap_cons, first.holds_eq, ih]

namespace Session

/-- What the shell writes to besides its writer, if that is its standard output. -/
def outlet? (s : Session) : Option Outlet :=
  if s.writer.onOutput then
    (s.machine.store.opened[s.machine.streams.output]?).map fun file =>
      ⟨s.machine.streams.output, file.node⟩
  else none

/-- The outlet is the standard output of the shell, if the writer writes to that. -/
def Uses (outlet : Option Outlet) (s : Session) : Prop :=
  outlet.map (·.handle) = if s.writer.onOutput then some s.machine.streams.output else none

/-- The sessions differ in the jobs on record, in what the shell has said and in which of the
children that have ended were waited for; the second has all the jobs of the first. -/
inductive Matches (outlet : Option Outlet) (way : Bytes × Bytes) (s : Session) : Session → Prop
  | intro {jobs : Registry} {machine : Machine} {writer : Writer}
      (listed : s.shell.jobs ⊆ jobs)
      (machines : s.machine.Resembles (Store.Unread outlet) way machine)
      (numbered : s.machine.children.Numbered) (works : s.writer.Works) (works' : writer.Works)
      (uses : s.Uses outlet) (onOutput : writer.onOutput = s.writer.onOutput) :
      Matches outlet way s { s with shell.jobs := jobs, machine, writer }

/-- Two sessions match, and since two others that did, both have said the same, have added the same
to their output and have put the same jobs on record. -/
structure Echoes (outlet : Option Outlet) (s t s' t' : Session) : Prop where
  matching : s'.Matches outlet
    (s.machine.store.collected outlet, t.machine.store.collected outlet) t'
  texts : ∃ texts, s'.writer.written = s.writer.written ++ texts ∧
    t'.writer.written = t.writer.written ++ texts
  jobs : ∃ jobs, s'.shell.jobs = jobs ++ s.shell.jobs ∧ t'.shell.jobs = jobs ++ t.shell.jobs

variable {programs : Programs} {s t s' t' u v : Session} {command : Command}
  {outlet : Option Outlet} {way : Bytes × Bytes}

/-- Nothing was said and no job put on record. -/
theorem Echoes.frame (h : Echoes outlet s t s' t')
    (matching : u.Matches outlet
      (s.machine.store.collected outlet, t.machine.store.collected outlet) v)
    (texts : u.writer.written = s'.writer.written) (texts' : v.writer.written = t'.writer.written)
    (jobs : u.shell.jobs = s'.shell.jobs) (jobs' : v.shell.jobs = t'.shell.jobs) :
    Echoes outlet s t u v :=
  ⟨matching, by rw [texts, texts']; exact h.texts, by rw [jobs, jobs']; exact h.jobs⟩

private theorem Matches.with_shell (h : s.Matches outlet way t) (f : Shell → Shell)
    (jobs : ∀ shell, (f shell).jobs = shell.jobs)
    (blind : ∀ shell jobs, f { shell with jobs } = { f shell with jobs }) :
    Matches outlet way { s with shell := f s.shell } { t with shell := f t.shell } := by
  cases h with
  | @intro listed machine writer subset machines numbered works works' uses onOutput =>
    simp only [blind s.shell listed]
    exact .intro (s := { s with shell := f s.shell }) ((jobs _).symm ▸ subset) machines numbered
      works works' uses onOutput

private theorem Matches.with_machine (h : s.Matches outlet way t) {m m' : Machine}
    {way' : Bytes × Bytes}
    (machines : m.Resembles (Store.Unread outlet) way' m') (numbered : m.children.Numbered)
    (streams : m.streams = s.machine.streams) :
    Matches outlet way' { s with machine := m } { t with machine := m' } := by
  obtain ⟨listed, -, -, works, works', uses, onOutput⟩ := h
  refine .intro (s := { s with machine := m }) listed machines numbered works works' ?_ onOutput
  rwa [Uses, streams]

theorem Matches.machines (h : s.Matches outlet way t) :
    s.machine.Resembles (Store.Unread outlet) way t.machine := by
  obtain ⟨-, machines⟩ := h
  exact machines

theorem Matches.numbered (h : s.Matches outlet way t) : s.machine.children.Numbered := by
  obtain ⟨-, -, numbered⟩ := h
  exact numbered

theorem Matches.listed (h : s.Matches outlet way t) : s.shell.jobs ⊆ t.shell.jobs := by
  obtain ⟨listed⟩ := h
  exact listed

theorem Matches.works (h : s.Matches outlet way t) : s.writer.Works ∧ t.writer.Works := by
  obtain ⟨-, -, -, works, works'⟩ := h
  exact ⟨works, works'⟩

theorem Matches.uses (h : s.Matches outlet way t) : s.Uses outlet := by
  obtain ⟨-, -, -, -, -, uses⟩ := h
  exact uses

private theorem Matches.onOutput_eq (h : s.Matches outlet way t) :
    t.writer.onOutput = s.writer.onOutput := by
  obtain ⟨-, -, -, -, -, -, onOutput⟩ := h
  exact onOutput

private theorem Matches.streams_eq (h : s.Matches outlet way t) :
    t.machine.streams = s.machine.streams := by
  obtain ⟨-, ⟨-⟩⟩ := h
  rfl

private theorem Matches.with_writers (h : s.Matches outlet way t) {writer writer' : Writer}
    (works : writer.Works) (works' : writer'.Works) (same : writer.onOutput = s.writer.onOutput)
    (same' : writer'.onOutput = t.writer.onOutput) :
    Matches outlet way { s with writer } { t with writer := writer' } := by
  obtain ⟨listed, machines, numbered, -, -, uses, onOutput⟩ := h
  refine .intro (s := { s with writer }) listed machines numbered works works' ?_
    (same'.trans (onOutput.trans same.symm))
  rwa [Uses, same]

private theorem Matches.echoes (h : s.Matches outlet way t) : Echoes outlet s t s t := by
  have stores := Store.unread_now h.machines.store.leads h.machines.store.apart
  have renewed := h.with_machine (h.machines.with_store stores) h.numbered rfl
  exact ⟨renewed, ⟨[], by simp⟩, ⟨[], by simp⟩⟩

/-! What is said. -/

def printing (s : Session) (text : String) : Store :=
  if s.writer.onOutput then s.machine.store.writeText s.machine.streams.output text
  else s.machine.store

private theorem echoes_speech (s t : Session) : SameSpeech (Echoes outlet s t) := by
  have operates (operation : WriterOperation) :
      Coupled (Echoes outlet s t) (operate operation) (operate operation) := by
    intro s' t' h
    obtain ⟨works, works'⟩ := h.matching.works
    rw [operate_run, operate_run, works, works']
    have counted : s'.counted.Matches outlet _ t'.counted :=
      h.matching.with_writers works works' rfl rfl
    exact .ok () (h.frame counted rfl rfl rfl rfl)
  refine ⟨operates, fun text => (operates .write).bind fun _ => coupled_modify fun s' t' h => ?_⟩
  obtain ⟨matching, ⟨texts, hs, ht⟩, jobs⟩ := h
  obtain ⟨works, works'⟩ := matching.works
  have stores : Store.Unread outlet (s.machine.store.collected outlet,
      t.machine.store.collected outlet) (s'.printing text) (t'.printing text) := by
    rw [printing, printing, matching.onOutput_eq, matching.streams_eq]
    split
    · exact matching.machines.store.tryWrite _ _
    · exact matching.machines.store
  have printed := matching.with_machine (matching.machines.with_store stores) matching.numbered rfl
  refine ⟨printed.with_writers (by exact works) (by exact works') rfl rfl,
    ⟨texts ++ [text], ?_, ?_⟩, jobs⟩
  · rw [hs, List.append_assoc]
  · rw [ht, List.append_assoc]

/-! What a line does. -/

private theorem Matches.handsOn (h : s.Matches outlet way t) : s.HandsOn t := by
  have held := h.machines.held_eq
  obtain ⟨-, ⟨⟨-⟩⟩⟩ := h
  exact ⟨held, rfl, rfl, rfl, rfl, rfl, rfl⟩

/-- The output of the shell is among the files that it has open. -/
theorem Uses.held {one : Outlet} (h : s.Uses outlet) (hone : one ∈ outlet) :
    one.handle = s.machine.streams.output := by
  obtain rfl := Option.mem_def.mp hone
  unfold Uses at h
  split at h
  · exact Option.some.inj h
  · cases h

private theorem departed_matches (h : s.Matches outlet way t)
    (blind : ∀ launch, (programs launch).Blind (Store.Unread outlet)) (command : Command)
    (background : Bool) :
    (departed programs s command background).Matches outlet way
      (departed programs t command background) := by
  obtain ⟨child, joined, -⟩ := s.machine.children.start_joined (.forChild background)
    (Departure.make programs s command background).behaviour
  have started := h.machines.children.start (.forChild background)
    (Departure.make_indifferent (fun _ _ _ beside => beside) blind s command background)
  have held : ∀ one ∈ outlet, one.handle ∈ s.machine.held := by
    intro one hone
    rw [h.uses.held hone]
    exact List.mem_append_left _ (by simp [Streams.held])
  obtain ⟨store, stores, departures⟩ :=
    Departure.make_unread programs command background h.handsOn h.machines.store held
  have numbered := h.numbered.joined joined
  obtain ⟨listed, ⟨⟨each⟩⟩, -, works, works', uses, onOutput⟩ := h
  simp only [departed, departures]
  exact .intro (s := departed programs s command background) listed
    (.intro (m := (departed programs s command background).machine) started stores) numbered works
    works' uses onOutput

private theorem echoes_recordBackground (s t : Session) (pid : Pid) (text : String) :
    Coupled (Echoes outlet s t) (recordBackground pid text) (recordBackground pid text) := by
  have speech : SameSpeech (Echoes outlet s t) := echoes_speech s t
  refine (coupled_modify ?_).bind fun _ => (speech.writeLine _).bind fun _ =>
    speech.flush.bind fun _ => coupled_get_bind ?_
  · rintro s' t' ⟨matching, texts, jobs, hs, ht⟩
    let job : Job := ⟨pid, text⟩
    refine ⟨?_, texts, ⟨job :: jobs, congrArg (job :: ·) hs, congrArg (job :: ·) ht⟩⟩
    obtain ⟨listed, machines, numbered, works, works', uses, onOutput⟩ := matching
    exact .intro (s := s'.listing pid text) (List.cons_subset_cons _ listed) machines numbered
      works works' uses onOutput
  · intro s' t' h
    have status : t'.shell.status = s'.shell.status := by
      obtain ⟨⟨-⟩⟩ := h
      rfl
    rw [status]
    exact .ok _ h

private theorem waitForeground_alike (h : Echoes outlet s t s' t') {child other : Child}
    (hm : child ∈ s'.machine.children.all) (hm' : other ∈ t'.machine.children.all)
    (numbers : other.pid = child.pid)
    (hs : (∃ since behaviour, child.state = .running since behaviour) ∨
      ∃ ending, child.state = .ended ending)
    (hs' : (∃ since behaviour, other.state = .running since behaviour) ∨
      ∃ ending, other.state = .ended ending) :
    Alike (Echoes outlet s t) ((waitForeground child.pid).run s')
      ((waitForeground child.pid).run t') := by
  have guarded := h.matching.machines.with_signals SignalState.block
  obtain ⟨answers, machines, numbered⟩ := guarded.await h.matching.numbered hm hm' numbers hs hs'
  have streams := Machine.await_streams
    { s'.machine with signals := s'.machine.signals.block } child.pid
  generalize ran : Machine.await { s'.machine with signals := s'.machine.signals.block } child.pid =
    waited, ran' : Machine.await { t'.machine with signals := t'.machine.signals.block } child.pid =
    waited' at answers machines numbered streams
  obtain ⟨answer, m⟩ := waited
  obtain ⟨answer', m'⟩ := waited'
  obtain rfl : answer' = answer := answers
  rw [waitForeground_run s' ran, waitForeground_run t' ran']
  have after := h.matching.with_machine (machines.with_signals SignalState.unblock) numbered streams
  cases answer' with
  | ok ending => exact .ok _ (h.frame after rfl rfl rfl rfl)
  | error fault => exact .error _ (h.frame after rfl rfl rfl rfl)

private theorem echoes_runChild (blind : ∀ launch, (programs launch).Blind (Store.Unread outlet))
    (s t : Session) (command : Command) (background : Bool) :
    Coupled (Echoes outlet s t) (runChild programs command background)
      (runChild programs command background) := by
  have forks : Coupled (Echoes outlet s t) fork fork := by
    refine coupled_fork ?_ ?_
    · rintro s' _ ⟨⟨-⟩⟩
      rfl
    · rintro s' _ ⟨⟨listed, machines, numbered, works, works', uses, onOutput⟩, texts, jobs⟩
      exact ⟨.intro (s := s'.forked) listed machines numbered works works' uses onOutput, texts, jobs⟩
  refine (echoes_speech s t).flush.bind fun _ => forks.bind fun _ => ?_
  intro s' t' h
  have started := departed_matches h.matching blind command background
  rw [EStateM.run_bind, EStateM.run_bind, startChild_run, startChild_run, h.matching.handsOn.next]
  cases background with
  | true =>
    have advanced := started.with_machine (started.machines.advance 1)
      ((Machine.advance_elapses started.numbered 1).numbered started.numbered)
      (Machine.advance_streams _ 1)
    exact echoes_recordBackground s t _ _ _ _ (h.frame advanced rfl rfl rfl rfl)
  | false =>
    obtain ⟨child, joined, going⟩ := s'.machine.children.start_joined (.forChild false)
      (Departure.make programs s' command false).behaviour
    obtain ⟨other, joined', going'⟩ := t'.machine.children.start_joined (.forChild false)
      (Departure.make programs t' command false).behaviour
    rw [← joined.number]
    exact waitForeground_alike (h.frame started rfl rfl rfl rfl) joined.mem joined'.mem
      (joined'.number.trans (h.matching.handsOn.next.trans joined.number.symm)) going going'

private theorem echoes_agreed (blind : ∀ launch, (programs launch).Blind (Store.Unread outlet))
    (s t : Session) : Agreed programs (Echoes outlet s t) where
  speech := echoes_speech s t
  status := by
    rintro _ _ ⟨⟨-⟩⟩
    rfl
  mode := by
    rintro _ _ ⟨⟨-⟩⟩
    rfl
  pid _ _ h := h.matching.handsOn.pid
  requested _ _ h := congrArg SignalState.requested h.matching.handsOn.signals
  remembers s' t' status h :=
    h.frame (h.matching.with_shell (fun shell => { shell with status }) (fun _ => rfl) fun _ _ => rfl)
      rfl rfl rfl rfl
  runs := echoes_runChild blind s t

private theorem echoes_builtin (s t : Session) (args : List String) {builtin : Builtin}
    (other : builtin ≠ .exit) :
    Coupled (Echoes outlet s t) (builtin.run args) (builtin.run args) := by
  cases builtin with
  | exit => exact absurd rfl other
  | status =>
    have speech : SameSpeech (Echoes outlet s t) := echoes_speech s t
    refine coupled_get_bind fun s' t' h => ?_
    have status : t'.shell.status = s'.shell.status := by
      obtain ⟨⟨-⟩⟩ := h
      rfl
    rw [status]
    exact ((speech.writeLine _).bind fun _ => speech.flush.bind fun _ => coupled_pure _) s' t' h
  | cd =>
    refine coupled_get_bind fun s' t' h => ?_
    have status : t'.shell.status = s'.shell.status := by
      obtain ⟨⟨-⟩⟩ := h
      rfl
    have files := congrArg Store.files h.matching.machines.store.apart
    simp only [Store.files_veil] at files
    have directories (path : String) :
        t'.machine.store.files.canonicalDirectory? s'.machine.cwd path =
          s'.machine.store.files.canonicalDirectory? s'.machine.cwd path := by
      rw [← FileSystem.canonicalDirectory?_veil, files, FileSystem.canonicalDirectory?_veil]
    rw [status, h.matching.handsOn.env, h.matching.handsOn.cwd]
    split
    · exact .ok _ h
    · dsimp only
      rw [directories]
      split
      · exact .ok _ h
      · next id canonical _ =>
        have moved := (h.matching.with_machine (h.matching.machines.with_cwd id)
          h.matching.numbered rfl).with_shell
            (fun shell => { shell with env.currentDir := canonical }) (fun _ => rfl) fun _ _ => rfl
        exact .ok _ (h.frame moved rfl rfl rfl rfl)

/-- A step that is no report and no `exit` comes to the same. -/
theorem Matches.step (h : s.Matches outlet way t)
    (blind : ∀ launch, (programs launch).Blind (Store.Unread outlet))
    {step : SessionStep} (plain : step.IsPlain) (notReport : step.isReport = false)
    (stays : ∀ line, step = .line line → ¬ s.ExitLine line) :
    (outcome (perform programs step) t).1 = (outcome (perform programs step) s).1 ∧
      Echoes outlet s t (s.after programs step) (t.after programs step) := by
  have agreed := echoes_agreed blind s t
  have coupled {action : Action Unit}
      (alike : Alike (Echoes outlet s t) (action.run s) (action.run t)) := alike.outcome
  have echoes := h.echoes
  have matching := echoes.matching
  cases step with
  | line line =>
    refine coupled (agreed.runLine echoes line fun command parses => ?_)
    refine agreed.execute fun builtin name => echoes_builtin s t _ ?_
    rintro rfl
    exact stays line rfl ⟨command, parses, argv_ne_nil_of_parse parses, name⟩
  | lines texts => exact plain.elim
  | report => cases notReport
  | sync =>
    refine coupled (agreed.sync ?_ s t echoes)
    intro s' t' mode h
    exact h.frame (h.matching.with_shell (fun shell => { shell with mode }) (fun _ => rfl)
      fun _ _ => rfl) rfl rfl rfl rfl
  | toggle =>
    have toggled := matching.machines.with_signals SignalState.toggleRequested
    exact ⟨rfl, echoes.frame (matching.with_machine toggled h.numbered rfl) rfl rfl rfl rfl⟩
  | signal signal =>
    have raised := matching.machines.with_signals (·.raise signal)
    exact ⟨rfl, echoes.frame (matching.with_machine raised h.numbered rfl) rfl rfl rfl rfl⟩
  | signalChild pid signal =>
    have signalled := matching.with_machine
      (matching.machines.with_children (matching.machines.children.signal pid signal))
      (h.numbered.live (Children.signal_live _ (show none ≠ some pid by simp) signal)) rfl
    exact ⟨rfl, echoes.frame signalled rfl rfl rfl rfl⟩
  | pass time =>
    have advanced := matching.with_machine (matching.machines.advance time)
      ((Machine.advance_elapses h.numbered time).numbered h.numbered)
      (Machine.advance_streams _ time)
    exact ⟨rfl, echoes.frame advanced rfl rfl rfl rfl⟩
  | writer fault => exact plain.elim

/-! What a report does. -/

private theorem Matches.report_left (programs : Programs) (h : s.Matches outlet way t)
    (hs : s.Tracked) : ∃ way', (s.after programs .report).Matches outlet way' t := by
  have reaped : s.reaping.Matches outlet way t := by
    have sublist := hs.reaping_sublist
    have numbered := hs.reaping.numbered
    obtain ⟨listed, ⟨each, stores⟩, -, works, works', uses, onOutput⟩ := h
    exact .intro (s := s.reaping) (List.Subset.trans sublist.subset listed)
      (.intro (m := s.reaping.machine) (each.reap_left s.shell.jobs) stores) numbered works works'
      uses onOutput
  have speech : SameSpeech (Both fun s => ∃ way, s.Matches outlet way t) := by
    refine both_speech ?_ ?_
    · rintro s operations ⟨way, h⟩
      exact ⟨way, h.with_writers h.works.1 h.works.2 rfl rfl⟩
    · rintro s text ⟨way, h⟩
      have stores : ∃ way', (s.printing text).Unread outlet way' t.machine.store := by
        unfold printing
        have uses := h.uses
        unfold Uses at uses
        split
        · next onOutput =>
          rw [if_pos onOutput, Option.map_eq_some_iff] at uses
          obtain ⟨one, hone, handle⟩ := uses
          exact ⟨_, handle ▸ h.machines.store.tryWrite_left hone _⟩
        · exact ⟨_, h.machines.store⟩
      obtain ⟨way', stores⟩ := stores
      have printed := h.with_machine (h.machines.with_store stores) h.numbered rfl
      exact ⟨way', printed.with_writers (by exact h.works.1) (by exact h.works.2) rfl rfl⟩
  have tells : Coupled (Both fun s => ∃ way, s.Matches outlet way t) (tell s.doneLines)
      (tell s.doneLines) :=
    (coupled_forM _ fun _ _ => speech.writeLine _).bind fun _ => speech.flush
  rw [after, outcome, perform, report_run]
  exact tells.holds_of_leaves ⟨way, reaped⟩ (leaves_outcome (tell s.doneLines) s.reaping)

/-! Over several steps. -/

structure Observation where
  error : Option CommandError
  /-- What the shell said. -/
  said : List String
  /-- What the shell remembers afterwards, but for the jobs. -/
  shell : Shell
  /-- The files afterwards, with all that children have written; but for the file that the shell
  itself writes to, if its writer is its standard output. -/
  store : Store
  /-- What was added to that file, if all that is written there is added to its end. -/
  added : Option Bytes
  cwd : NodeId
  /-- How signals are taken, and the mode that is asked for. -/
  signals : SignalState

def observe (programs : Programs) (s : Session) (step : SessionStep) : Observation :=
  let s' := s.after programs step
  { error := (outcome (perform programs step) s).1
    said := s.said programs [step]
    shell := { s'.shell with jobs := [] }
    store := s'.machine.store.veil (.over (s.outlet?.map (·.node)))
    added := s.outlet?.bind fun one =>
      if s'.machine.store.gathers one.node then
        some ((s'.machine.store.files.content one.node).drop
          (s.machine.store.files.content one.node).length)
      else none
    cwd := s'.machine.cwd
    signals := s'.machine.signals }

/-- What can be seen of some steps, but for the reports among them. -/
def observed (programs : Programs) (s : Session) : List SessionStep → List Observation
  | [] => []
  | step :: rest =>
    (if step.isReport then [] else [s.observe programs step]) ++
      observed programs (s.after programs step) rest

variable {step : SessionStep} {steps : List SessionStep}

private theorem eq_report (report : step.isReport = true) : step = .report := by
  cases step <;> first | rfl | cases report

private theorem stays_after (programs : Programs) (plain : step.IsPlain) (hs : s.Tracked)
    (stays : ∀ line, .line line ∈ step :: steps → ¬ s.ExitLine line) :
    ∀ line, .line line ∈ steps → ¬ (s.after programs step).ExitLine line := by
  intro line hm exit
  refine stays line (List.mem_cons_of_mem _ hm) ?_
  rwa [ExitLine, after_pid programs plain.isSingle hs.numbered] at exit

private theorem Echoes.said_eq
    (h : Echoes outlet s t (s.after programs step) (t.after programs step)) :
    s.said programs [step] = t.said programs [step] := by
  obtain ⟨texts, hs, ht⟩ := h.texts
  rw [Session.said, Session.said, afterAll_cons, afterAll_cons, afterAll_nil, afterAll_nil, hs, ht,
    List.drop_left, List.drop_left]

private theorem Uses.outlet?_eq (uses : s.Uses outlet)
    (leads : ∀ one ∈ outlet, s.machine.store.Leads one) : s.outlet? = outlet := by
  unfold Uses at uses
  unfold outlet?
  split at uses
  · next onOutput =>
    obtain ⟨one, rfl, handle⟩ := Option.map_eq_some_iff.mp uses
    obtain ⟨file, there, node, -⟩ := leads one rfl
    rw [if_pos onOutput, ← handle, there, Option.map_some, node]
  · next silent =>
    rw [if_neg silent, Option.map_eq_none_iff.mp uses]

private theorem Matches.outlets (h : s.Matches outlet way t) :
    s.outlet? = outlet ∧ t.outlet? = outlet := by
  have uses : t.Uses outlet := by
    rw [Uses, h.onOutput_eq, h.streams_eq]
    exact h.uses
  exact ⟨h.uses.outlet?_eq h.machines.store.leads,
    uses.outlet?_eq fun _ hone => h.machines.store.leads_right hone⟩

private theorem Matches.observe_eq (h : s.Matches outlet way t)
    (blind : ∀ launch, (programs launch).Blind (Store.Unread outlet))
    (plain : step.IsPlain) (notReport : step.isReport = false)
    (stays : ∀ line, step = .line line → ¬ s.ExitLine line) :
    s.observe programs step = t.observe programs step := by
  obtain ⟨errors, echoes⟩ := h.step blind plain notReport stays
  have stores := echoes.matching.machines.store
  have shell : ({ (t.after programs step).shell with jobs := [] } : Shell) =
      { (s.after programs step).shell with jobs := [] } := by
    have matching := echoes.matching
    generalize s.after programs step = s', t.after programs step = t' at matching
    obtain ⟨-⟩ := matching
    rfl
  simp only [observe, errors, echoes.said_eq, shell, h.outlets.1, h.outlets.2, stores.apart,
    echoes.matching.handsOn.cwd, echoes.matching.handsOn.signals]
  congr 1
  cases outlet with
  | none => rfl
  | some one =>
    simp only [Option.bind_some, stores.gathers_eq]
    split
    · next gathers =>
      obtain ⟨added, content, content'⟩ := stores.added one rfl gathers
      rw [content, content']
      simp [Store.collected]
    · rfl

/-- With reports or without them, the other steps come to the same. Without them, all jobs stay on
record. -/
theorem Matches.afterAll (h : s.Matches outlet way t) (hs : s.Tracked)
    (blind : ∀ launch, (programs launch).Blind (Store.Unread outlet))
    (plain : ∀ step ∈ steps, step.IsPlain)
    (stays : ∀ line, .line line ∈ steps → ¬ s.ExitLine line) :
    let others := steps.filter (!·.isReport)
    s.observed programs steps = t.observed programs others ∧
      (∃ way', (s.afterAll programs steps).Matches outlet way' (t.afterAll programs others)) ∧
      t.shell.jobs ⊆ (t.afterAll programs others).shell.jobs := by
  induction steps generalizing s t way with
  | nil => exact ⟨rfl, ⟨way, h⟩, List.Subset.refl _⟩
  | cons step rest ih =>
    obtain ⟨hstep, hrest⟩ := List.forall_mem_cons.mp plain
    have hs' := (after_touches programs hstep.isSingle hs).tracked hs
    have stays' := stays_after programs hstep hs stays
    cases report : step.isReport with
    | true =>
      obtain rfl := eq_report report
      obtain ⟨way', reported⟩ := h.report_left programs hs
      exact ih reported hs' hrest stays'
    | false =>
      have notExit : ∀ line, step = .line line → ¬ s.ExitLine line := by
        rintro line rfl
        exact stays line List.mem_cons_self
      obtain ⟨-, echoes⟩ := h.step blind hstep report notExit
      obtain ⟨later, ends, listed⟩ := ih echoes.matching hs' hrest stays'
      obtain ⟨jobs, -, added⟩ := echoes.jobs
      rw [List.filter_cons_of_pos (by simp [report])]
      refine ⟨?_, ends, fun job hj => listed (added ▸ List.mem_append_right _ hj)⟩
      simp only [observed, report, Bool.false_eq_true, if_false,
        h.observe_eq blind hstep report notExit, later]

/-! What is told in the end. -/

/-- The writer works; and if it is the standard output of the shell, that is open for writing. -/
structure CanSpeak (s : Session) : Prop where
  works : s.writer.Works
  opened : s.writer.onOutput = true → ∃ one ∈ s.outlet?, s.machine.store.Leads one

private theorem CanSpeak.leads (speaks : s.CanSpeak) {one : Outlet} (hone : one ∈ s.outlet?) :
    s.machine.store.Leads one := by
  by_cases onOutput : s.writer.onOutput = true
  · obtain ⟨other, isOther, leads⟩ := speaks.opened onOutput
    exact Option.mem_unique hone isOther ▸ leads
  · simp [outlet?, onOutput] at hone

private theorem CanSpeak.uses (speaks : s.CanSpeak) : s.Uses s.outlet? := by
  unfold Uses
  by_cases onOutput : s.writer.onOutput = true
  · obtain ⟨one, hone, -⟩ := speaks.opened onOutput
    rw [hone, if_pos onOutput]
    rw [outlet?, if_pos onOutput] at hone
    obtain ⟨file, -, rfl⟩ := Option.map_eq_some_iff.mp hone
    rfl
  · simp [outlet?, onOutput]

end Session

end JobShell
