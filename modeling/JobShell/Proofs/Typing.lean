import JobShell.Proofs.Coupling
import JobShell.Proofs.Feeding

/-!
Lines that are given and lines that are typed. As long as no other mode is asked for, and no job has
ended when the last line is done, a session over given lines and one that reads the same lines from
its input come to the same. Where one of the two fails to hold, they need not.
-/

namespace JobShell

namespace Session

/-! A writer that works: the shell never breaks off. -/

/-- An outcome that leaves a writer that works, and no error of output. -/
inductive Mild {α : Type} : EStateM.Result CommandError Session α → Prop
  | ok (x : α) {t : Session} (works : t.writer.Works) : Mild (.ok x t)
  | error (e : CommandError) {t : Session} (works : t.writer.Works)
      (other : ∀ text, e ≠ .output text) : Mild (.error e t)

def IsMild {α : Type} (action : Action α) : Prop :=
  ∀ s, s.writer.Works → Mild (action.run s)

variable {programs : Programs} {s t : Session} {α β : Type}

private theorem isMild_pure (x : α) : IsMild (pure x : Action α) :=
  fun _ works => .ok x works

theorem IsMild.bind {action : Action α} {f : α → Action β} (first : IsMild action)
    (next : ∀ x, IsMild (f x)) : IsMild (action >>= f) := by
  intro s works
  have outcome := first s works
  rw [EStateM.run_bind]
  generalize action.run s = ran at outcome
  cases outcome with
  | ok x works => exact next x _ works
  | error e works other => exact .error e works other

private theorem isMild_get_bind {f : Session → Action α}
    (next : ∀ s, s.writer.Works → Mild ((f s).run s)) : IsMild ((get : Action Session) >>= f) :=
  next

private theorem isMild_modify {f : Session → Session}
    (keeps : ∀ s, s.writer.Works → (f s).writer.Works) : IsMild (modify f) :=
  fun s works => .ok () (keeps s works)

private theorem isMild_modifyShell (f : Shell → Shell) : IsMild (modifyShell f) :=
  isMild_modify fun _ works => works

theorem Told.works {lines : List String} {error : Option CommandError} (h : s.Told lines error t)
    (works : s.writer.Works) : t.writer.Works := by
  intro number operation
  rw [h.fault]
  exact works number operation

theorem operate_works (works : s.writer.Works) (operation : WriterOperation) :
    (operate operation).run s = .ok () s.counted := by
  rw [operate_run, works s.writer.operations operation]

private theorem isMild_operate (operation : WriterOperation) : IsMild (operate operation) := by
  intro s works
  rw [operate_works works]
  exact .ok () works

private theorem isMild_writeLine (line : String) : IsMild (writeLine line) :=
  (isMild_operate .write).bind fun _ => isMild_modify fun _ works => works

private theorem isMild_fork : IsMild fork := by
  intro s works
  rw [fork_run]
  cases s.refusal s.forks with
  | none => exact .ok () works
  | some fault => exact .error _ works fun _ => nofun

private theorem isMild_startChild (command : Command) (background : Bool) :
    IsMild (startChild programs command background) := by
  intro s works
  rw [startChild_run]
  split
  · exact .ok _ works
  · exact .ok _ works

private theorem isMild_waitForeground (pid : Pid) : IsMild (waitForeground pid) := by
  intro s works
  generalize hawait : Machine.await { s.machine with signals := s.machine.signals.block } pid = ran
  obtain ⟨answer, between⟩ := ran
  rw [waitForeground_run s hawait]
  cases answer with
  | ok ending => exact .ok _ works
  | error fault => exact .error _ works fun _ => nofun

private theorem isMild_runChild (command : Command) (background : Bool) :
    IsMild (runChild programs command background) := by
  refine (isMild_operate .flush).bind fun _ => isMild_fork.bind fun _ =>
    (isMild_startChild command background).bind fun pid => ?_
  split
  · exact (isMild_modifyShell _).bind fun _ => (isMild_writeLine _).bind fun _ =>
      (isMild_operate .flush).bind fun _ => isMild_get_bind fun s => isMild_pure _ s
  · exact isMild_waitForeground pid

private theorem isMild_builtin (args : List String) (builtin : Builtin) : IsMild
    (builtin.run args) := by
  cases builtin with
  | exit =>
    intro s works
    rw [Builtin.run, exit_run]
    exact .ok _ works
  | cd =>
    intro s works
    obtain ⟨t, runs, cwd, dir, rfl⟩ := cd_run args s
    rw [Builtin.run, runs]
    exact .ok _ works
  | status =>
    exact isMild_get_bind fun s works => ((isMild_writeLine _).bind fun _ =>
      (isMild_operate .flush).bind fun _ => isMild_pure _) s works

theorem isMild_execute (command : Command) : IsMild (execute programs command) := by
  refine isMild_get_bind fun s works => ?_
  split
  · exact .ok _ works
  · split
    · exact isMild_builtin _ _ s works
    · refine isMild_get_bind (fun s works => ?_) s works
      split
      · exact .error _ works fun _ => nofun
      · exact isMild_runChild command _ s works

/-- To run a line succeeds, whatever becomes of its command. -/
theorem runLine_works (programs : Programs) (line : String) (works : s.writer.Works) :
    ∃ t, (runLine programs line).run s = .ok () t ∧ t.writer.Works := by
  have complains (message : String) (s : Session) (works : s.writer.Works) :
      ∃ t, (complain message).run s = .ok () t ∧ t.writer.Works := by
    rcases complain_run message s with ⟨t, runs, told⟩ | ⟨e, t, -, told⟩
    · exact ⟨t, runs, told.works works⟩
    · cases (told.of_works works).1
  cases parses : parse line s.pid with
  | error e =>
    simp only [runLine, EStateM.run_bind, EStateM.run_get, parses]
    exact complains _ s works
  | ok read =>
    cases read with
    | none =>
      simp only [runLine, EStateM.run_bind, EStateM.run_get, parses]
      exact ⟨s, rfl, works⟩
    | some command =>
      rw [runLine_run parses]
      have outcome : Mild ((execute programs command).run s) := isMild_execute command s works
      cases executes : (execute programs command).run s with
      | ok status t =>
        rw [executes] at outcome
        cases outcome with
        | ok _ works =>
          rw [executeOrComplain_ok executes]
          exact ⟨_, rfl, works⟩
      | error e t =>
        rw [executes] at outcome
        cases outcome with
        | error _ works other =>
          obtain ⟨u, runs, works⟩ := complains e.message t works
          rw [executeOrComplain_error executes other, EStateM.run_bind, runs]
          exact ⟨_, rfl, works⟩

theorem report_works (works : s.writer.Works) :
    ∃ t, reportFinishedJobs.run s = .ok () t ∧ t.writer.Works := by
  rw [report_run]
  rcases tell_run s.doneLines s.reaping with ⟨t, runs, told⟩ | ⟨e, t, -, told⟩
  · exact ⟨t, runs, told.works works⟩
  · cases (told.of_works works).1

/-! A session that has read on. -/

/-- The second session has read on in its input, and its writer was asked more often; neither makes
a difference to it or to its children. -/
structure Trails (input : Handle) (ahead : Bytes) (offset : Nat) (s t : Session) : Prop where
  same : ∃ operations, t = { s.readOn ahead offset with writer.operations := operations }
  works : s.writer.Works
  stream : s.machine.streams.input = input
  inside : input < s.machine.store.opened.size
  apart : input ≠ s.machine.streams.output
  children : s.machine.children.Overlook (Store.Reread input)

variable {input : Handle} {ahead : Bytes} {offset : Nat}

theorem Trails.like (h : Trails input ahead offset s t) :
    Machine.Like (Store.Reread input) s.machine offset s.machine t.machine := by
  obtain ⟨⟨operations, rfl⟩, works, rfl, inside, apart, children⟩ := h
  exact ⟨rfl, ⟨inside, rfl⟩, children, rfl, rfl, rfl⟩

/-- Whatever goes on in the machines, as long as it is alike. -/
theorem Trails.of_like (h : Trails input ahead offset s t) {m m' : Machine}
    (like : Machine.Like (Store.Reread input) s.machine offset m m') :
    Trails input ahead offset { s with machine := m } { t with machine := m' } := by
  obtain ⟨⟨operations, rfl⟩, works, rfl, inside, apart, children⟩ := h
  obtain ⟨store, rfl⟩ := like.exists_store
  obtain ⟨inside, rfl⟩ := like.store
  have streams : m.streams = s.machine.streams := like.streams
  refine ⟨⟨operations, ?_⟩, works, congrArg Streams.input streams, inside,
    streams ▸ apart, like.children⟩
  simp only [readOn, streams]

private theorem trails_speech : SameSpeech (Trails input ahead offset) := by
  have operates (operation : WriterOperation) :
      Coupled (Trails input ahead offset) (operate operation) (operate operation) := by
    rintro s _ ⟨⟨operations, rfl⟩, works, stream, inside, apart, children⟩
    rw [operate_works works, operate_works (by exact works)]
    exact .ok () ⟨⟨operations + 1, rfl⟩, works, stream, inside, apart, children⟩
  refine ⟨operates, fun text => (operates .write).bind fun _ => coupled_modify ?_⟩
  rintro s _ ⟨⟨operations, rfl⟩, works, rfl, inside, apart, children⟩
  refine ⟨⟨operations, ?_⟩, works, rfl, ?_, apart, children⟩
  · by_cases output : s.writer.onOutput = true
    · simp only [readOn, output, if_true, Store.writeText_seek _ apart]
    · simp only [readOn, output]
      rfl
  · dsimp only
    split
    · rwa [Store.size_writeText]
    · exact inside

private theorem trails_builtin (args : List String) (builtin : Builtin) :
    Coupled (Trails input ahead offset) (builtin.run args) (builtin.run args) := by
  cases builtin with
  | exit =>
    rintro s _ ⟨⟨operations, rfl⟩, works, stream, inside, apart, children⟩
    rw [Builtin.run, exit_run, exit_run]
    exact .ok _ ⟨⟨operations, rfl⟩, works, stream, inside, apart,
      List.foldlRecOn _ _ children fun _ hc _ _ => hc.signal _ _⟩
  | cd =>
    refine coupled_get_bind ?_
    rintro s _ ⟨⟨operations, rfl⟩, works, stream, inside, apart, children⟩
    dsimp only [readOn, Store.files_seek]
    cases Builtin.cdTarget s.shell.env args with
    | none => exact .ok _ ⟨⟨operations, rfl⟩, works, stream, inside, apart, children⟩
    | some target =>
      dsimp only
      cases s.machine.store.files.canonicalDirectory? s.machine.cwd (s.shell.env.resolve target) with
      | none => exact .ok _ ⟨⟨operations, rfl⟩, works, stream, inside, apart, children⟩
      | some place =>
        exact .ok _ ⟨⟨operations, rfl⟩, works, stream, inside, apart, children⟩
  | status =>
    refine coupled_get_bind fun s t related => ?_
    obtain ⟨operations, rfl⟩ := related.same
    exact ((trails_speech.writeLine _).bind fun _ => trails_speech.flush.bind fun _ =>
      coupled_pure _) _ _ related

private theorem trails_startChild
    (overlook : ∀ launch, (programs launch).Overlooks (Store.Reread input))
    (command : Command) (background : Bool) :
    Coupled (Trails input ahead offset) (startChild programs command background)
      (startChild programs command background) := by
  refine coupled_startChild ?_ ?_ fun s t h => h.of_like (h.like.advance 1)
  · rintro s _ ⟨⟨operations, rfl⟩, -⟩
    rfl
  rintro s _ ⟨⟨operations, rfl⟩, works, rfl, inside, apart, children⟩
  have makes : Departure.make programs
      { s.readOn ahead offset with writer.operations := operations } command background =
        { Departure.make programs s command background with
          store := (Departure.make programs s command background).store.seek
            s.machine.streams.input offset } :=
    Departure.make_seek programs command background ahead offset inside apart
  refine ⟨⟨operations, ?_⟩, works, rfl,
    Nat.lt_of_lt_of_le inside (Departure.make_size programs command background), apart,
    children.start _ (Departure.make_overlooks overlook s command background)⟩
  unfold departed
  rw [makes]
  rfl

private theorem trails_waitForeground (pid : Pid) :
    Coupled (Trails input ahead offset) (waitForeground pid) (waitForeground pid) := by
  have waits (s t : Session) (h : Trails input ahead offset s t) :
      (t.awaited pid).1 = (s.awaited pid).1 ∧
        Machine.Like (Store.Reread input) s.machine offset (s.awaited pid).2 (t.awaited pid).2 := by
    unfold awaited
    rw [h.like.signals]
    exact (h.like.withSignals s.machine.signals.block).await pid
  refine coupled_waitForeground (fun s t h => (waits s t h).1) fun s t h => ?_
  have signals : (t.awaited pid).2.signals = (s.awaited pid).2.signals := (waits s t h).2.signals
  rw [waited, waited, signals]
  exact h.of_like ((waits s t h).2.withSignals _)

private theorem trails_reaps (s t : Session) (h : Trails input ahead offset s t) :
    t.reports = s.reports ∧ Trails input ahead offset s.reaping t.reaping := by
  obtain ⟨⟨operations, rfl⟩, works, stream, inside, apart, children⟩ := h
  exact ⟨rfl, ⟨operations, rfl⟩, works, stream, inside, apart, children.reap _⟩

private theorem trails_respected
    (overlook : ∀ launch, (programs launch).Overlooks (Store.Reread input)) :
    Respected programs (Trails input ahead offset) where
  speech := trails_speech
  status := by rintro s _ ⟨⟨operations, rfl⟩, -⟩; rfl
  mode := by rintro s _ ⟨⟨operations, rfl⟩, -⟩; rfl
  shouldExit := by rintro s _ ⟨⟨operations, rfl⟩, -⟩; rfl
  pid := by rintro s _ ⟨⟨operations, rfl⟩, -⟩; rfl
  requested := by rintro s _ ⟨⟨operations, rfl⟩, -⟩; rfl
  remembers := by
    rintro s _ status ⟨⟨operations, rfl⟩, works, stream, inside, apart, children⟩
    exact ⟨⟨operations, rfl⟩, works, stream, inside, apart, children⟩
  lists := by
    rintro s _ pid text ⟨⟨operations, rfl⟩, works, stream, inside, apart, children⟩
    exact ⟨⟨operations, rfl⟩, works, stream, inside, apart, children⟩
  reaps := trails_reaps
  forks := by
    refine coupled_fork ?_ ?_
    · rintro s _ ⟨⟨operations, rfl⟩, -⟩
      rfl
    · rintro s _ ⟨⟨operations, rfl⟩, works, stream, inside, apart, children⟩
      exact ⟨⟨operations, rfl⟩, works, stream, inside, apart, children⟩
  starts := trails_startChild overlook
  waits := trails_waitForeground

/-! The two loops. -/

/-- No other mode is asked for than the one that the shell is in. -/
def InMode (s : Session) : Prop :=
  s.machine.signals.requested = s.shell.mode

instance : DecidablePred InMode :=
  fun s => inferInstanceAs (Decidable (s.machine.signals.requested = s.shell.mode))

/-- A report finds nothing out. -/
structure Uneventful (s : Session) : Prop where
  reports : s.reports = []
  reaping : s.reaping = s

private theorem uneventful_of_noJobs (h : s.shell.jobs = []) : s.Uneventful := by
  refine ⟨by rw [reports, h]; rfl, ?_⟩
  rw [reaping, h, Registry.reap]
  simp only [Registry.reapWith, ← h]

/-- What holds at each turn of a run over lines, when the ends of jobs were told, and what holds when
the lines are done. -/
def Throughout (programs : Programs) (turn last : Session → Prop) : List String → Session → Prop
  | [], s => last s
  | line :: rest, s => ∀ t, reportFinishedJobs.run s = .ok () t → turn t ∧
      ∀ u, (runLine programs line).run t = .ok () u → u.shell.shouldExit = false →
        Throughout programs turn last rest u

theorem InMode.syncMode_run (h : s.InMode) : syncMode.run s = .ok () s := by
  have same : s.machine.signals.requested = s.shell.mode := h
  simp only [syncMode, EStateM.run_bind, EStateM.run_get, ne_eq, same, not_true_eq_false, if_false]
  rfl

theorem Trails.readOn (h : Trails input ahead offset s t) (ahead' : Bytes) (offset' : Nat) :
    Trails input ahead' offset' s (t.readOn ahead' offset') := by
  obtain ⟨⟨operations, rfl⟩, works, rfl, inside, apart, children⟩ := h
  exact ⟨⟨operations, by simp [Session.readOn]⟩, works, rfl, inside, apart, children⟩

theorem Trails.inMode (h : Trails input ahead offset s t) (mode : s.InMode) : t.InMode := by
  obtain ⟨⟨operations, rfl⟩, -⟩ := h
  exact mode

theorem Trails.shell (h : Trails input ahead offset s t) : t.shell = s.shell := by
  obtain ⟨⟨operations, rfl⟩, -⟩ := h
  rfl

private theorem Trails.works_too (h : Trails input ahead offset s t) : t.writer.Works := by
  obtain ⟨⟨operations, rfl⟩, works, -⟩ := h
  exact works

theorem Trails.asked (h : Trails input ahead offset s t) (operations : Nat) :
    Trails input ahead offset s { t with writer.operations := operations } := by
  obtain ⟨⟨_, rfl⟩, works, stream, inside, apart, children⟩ := h
  exact ⟨⟨operations, rfl⟩, works, stream, inside, apart, children⟩

/-- An uneventful report only makes sure that nothing written is on its way. -/
theorem Trails.report_run (h : Trails input ahead offset s t) (uneventful : s.Uneventful) :
    ∃ u, reportFinishedJobs.run t = .ok () u ∧ Trails input ahead offset s u := by
  obtain ⟨reports, reaps⟩ := trails_reaps s t h
  have silent : t.doneLines = [] := by rw [doneLines, reports, uneventful.reports, List.map_nil]
  rw [uneventful.reaping] at reaps
  rw [Session.report_run, silent]
  exact ⟨_, operate_works reaps.works_too .flush, reaps.asked _⟩

variable {content : Bytes} {file : OpenFile} {fuel turns : Nat} {line : String} {u v : Session}

/-- The next line is taken from the input as it was typed. -/
theorem Trails.takeLine_run (h : Trails input ahead offset s t) (offers : s.Offers content file)
    (enough : content.length + 3 ≤ fuel) {line rest : Bytes}
    (splits : Text.splitLine (ahead ++ content.drop offset) = (line, rest)) :
    ∃ ahead' offset' u, (takeLine fuel []).run t = .ok (some line) u ∧
      ahead' ++ content.drop offset' = rest ∧ Trails input ahead' offset' s u := by
  have trails := h
  obtain ⟨⟨operations, rfl⟩, -⟩ := h
  have there := offers.readOn ahead offset
  have offered : Offers content { file with offset }
      { s.readOn ahead offset with writer.operations := operations } :=
    ⟨there.opened, there.reads, there.regular⟩
  have steps : stepsFor ahead (content.drop offset).length ≤ fuel := by
    have fewer : (content.drop offset).length ≤ content.length := by simp
    unfold stepsFor
    split_ifs <;> omega
  obtain ⟨ahead', offset', takes, left⟩ := Session.takeLine_run fuel [] offered steps
  refine ⟨ahead', offset', _, takes.trans ?_, left.trans (congrArg Prod.snd splits),
    trails.readOn ahead' offset'⟩
  rw [List.nil_append]
  exact congrArg (fun split => EStateM.Result.ok (some split) _) (congrArg Prod.fst splits)

private theorem go_end (going : t.shell.shouldExit = false)
    (reports : reportFinishedJobs.run t = .ok () u) (mode : u.InMode)
    (takes : (takeLine fuel []).run u = .ok (some []) v) :
    (promptLoop.go programs none fuel (turns + 1)).run t =
      (do runLine programs "exit"; return .finished : Action LoopEnd).run v := by
  rw [promptLoop.go, run_get_bind, if_neg (by simp [going])]
  simp only [prepareTurn, EStateM.run_bind, reports, mode.syncMode_run, showPrompt, EStateM.run_pure,
    takes, if_true]

private theorem go_line (going : t.shell.shouldExit = false)
    (reports : reportFinishedJobs.run t = .ok () u) (mode : u.InMode) {taken : Bytes}
    (takes : (takeLine fuel []).run u = .ok (some taken) v) (some : taken ≠ []) {text : String}
    (reads : Text.readTyped taken = .line text) :
    (promptLoop.go programs none fuel (turns + 1)).run t =
      (do runLine programs text; promptLoop.go programs none fuel turns : Action LoopEnd).run v := by
  rw [promptLoop.go, run_get_bind, if_neg (by simp [going])]
  simp only [prepareTurn, EStateM.run_bind, reports, mode.syncMode_run, showPrompt, EStateM.run_pure,
    takes, some, if_false, reads]

private theorem promptLoop_of_runLines
    (overlook : ∀ launch, (programs launch).Overlooks (Store.Reread input))
    (enough : content.length + 3 ≤ fuel) {lines : List String}
    (typable : ∀ line ∈ lines, Text.Typable line) (more : lines.length < turns)
    (going : s.shell.shouldExit = false) (trails : Trails input ahead offset s t)
    (feeds : ahead ++ content.drop offset = lines.flatMap Text.typed)
    (quiet : Throughout programs (fun t => t.InMode ∧ ∃ file, t.Offers content file)
      (fun t => t.InMode ∧ (∃ file, t.Offers content file) ∧ t.Uneventful) lines s) :
    ∃ s' t' ahead' offset', (runLines programs lines).run s = .ok () s' ∧
      (promptLoop.go programs none fuel turns).run t = .ok .finished t' ∧
      Trails input ahead' offset' s' t' := by
  -- the second session is at the prompt: its report is still to come, and the line to be taken
  induction lines generalizing s t ahead offset turns with
  | nil =>
    obtain ⟨turns, rfl⟩ := Nat.exists_eq_add_one_of_ne_zero (Nat.ne_zero_of_lt more)
    obtain ⟨mode, ⟨file, offers⟩, uneventful⟩ := quiet
    obtain ⟨u, reports, reported⟩ := trails.report_run uneventful
    have ends : Text.splitLine (ahead ++ content.drop offset) = ([], []) := by
      rw [feeds]
      rfl
    obtain ⟨ahead', offset', v, takes, -, taken⟩ := reported.takeLine_run offers enough ends
    obtain ⟨s', runs, -⟩ := runLine_works programs "exit" trails.works
    obtain ⟨t', exits, ended⟩ :=
      ((trails_respected overlook).line trails_builtin "exit").run_ok taken runs
    refine ⟨s', t', ahead', offset', runs, ?_, ended⟩
    rw [go_end (trails.shell ▸ going) reports (reported.inMode mode) takes, EStateM.run_bind, exits]
    rfl
  | cons line rest ih =>
    obtain ⟨turns, rfl⟩ := Nat.exists_eq_add_one_of_ne_zero (Nat.ne_zero_of_lt more)
    obtain ⟨isTypable, typable⟩ := List.forall_mem_cons.mp typable
    obtain ⟨s₁, reports, works⟩ := report_works trails.works
    obtain ⟨⟨mode, file, offers⟩, later⟩ := quiet s₁ reports
    obtain ⟨t₁, reports', reported⟩ := (trails_respected overlook).report.run_ok trails reports
    obtain ⟨ahead', offset', t₂, takes, left, taken⟩ := reported.takeLine_run offers enough
      (by rw [feeds, List.flatMap_cons, Text.splitLine_typed isTypable])
    obtain ⟨s₂, runs, -⟩ := runLine_works programs line works
    obtain ⟨t₃, runs', ran⟩ :=
      ((trails_respected overlook).line trails_builtin line).run_ok taken runs
    have some : Text.typed line ≠ [] := by simp [Text.typed]
    have types : (promptLoop.go programs none fuel (turns + 1)).run t =
        (promptLoop.go programs none fuel turns).run t₃ := by
      rw [go_line (trails.shell ▸ going) reports' (reported.inMode mode) takes some
        isTypable.readTyped, EStateM.run_bind, runs']
    have gives : (runLines programs (line :: rest)).run s =
        (if s₂.shell.shouldExit then pure () else runLines programs rest : Action Unit).run s₂ := by
      simp only [runLines, EStateM.run_bind, EStateM.run_get, reports, runs]
    rw [types, gives]
    cases exits : s₂.shell.shouldExit with
    | true =>
      obtain ⟨turns, rfl⟩ := Nat.exists_eq_add_one_of_ne_zero
        (Nat.ne_zero_of_lt (Nat.lt_of_succ_lt_succ more))
      refine ⟨s₂, t₃, ahead', offset', rfl, ?_, ran⟩
      rw [promptLoop.go, run_get_bind, ran.shell, if_pos exits]
      rfl
    | false =>
      exact ih typable (Nat.lt_of_succ_lt_succ more) exits ran left (later s₂ runs exits)

/-- To run given lines is to type them at a prompt whose input ends after them, as long as no other
mode is asked for at a turn and the last report has nothing to tell. What the shell remembers and has
said and all that it has done are the same then; the sessions differ only in how far the input was
read, and in how often the writer was asked. -/
theorem lines_as_typed (programs : Programs) {lines : List String}
    (typable : ∀ line ∈ lines, Text.Typable line)
    (overlook : ∀ launch, (programs launch).Overlooks (Store.Reread s.machine.streams.input))
    (children : s.machine.children.Overlook (Store.Reread s.machine.streams.input))
    (works : s.writer.Works) (going : s.shell.shouldExit = false)
    (apart : s.machine.streams.input ≠ s.machine.streams.output) (ahead : s.ahead = [])
    (offers : s.Offers content file) (feeds : content.drop file.offset = lines.flatMap Text.typed)
    (enough : content.length + 3 ≤ fuel)
    (quiet : Throughout programs (fun t => t.InMode ∧ ∃ file, t.Offers content file)
      (fun t => t.InMode ∧ (∃ file, t.Offers content file) ∧ t.Uneventful) lines s) :
    ∃ t ahead offset operations, (runLines programs lines).run s = .ok () t ∧
      (promptLoop programs none fuel).run s =
        .ok .finished { t.readOn ahead offset with writer.operations := operations } := by
  have start : Trails s.machine.streams.input [] file.offset s s := by
    refine ⟨⟨s.writer.operations, ?_⟩, works, rfl, ?_, apart, children⟩
    · rw [← ahead, Session.readOn, Store.seek_self offers.opened]
    · exact (Array.getElem?_eq_some_iff.mp offers.opened).1
  have more : lines.length < fuel := by
    have unread : (lines.flatMap Text.typed).length ≤ content.length := by simp [← feeds]
    have count := Text.length_le_typed lines
    omega
  obtain ⟨t, u, ahead, offset, runs, prompts, ⟨operations, rfl⟩, -⟩ :=
    promptLoop_of_runLines overlook enough typable more going start feeds quiet
  exact ⟨t, ahead, offset, operations, runs, prompts⟩

def fed (lines : List String) : Session :=
  { machine :=
      .boot 2 {} FileSystem.root (lines.flatMap Text.typed) (.file 0o644 []) 3 .interactive }

private theorem run_of_outcome {action : Action Unit} (h : (outcome action s).1 = none) :
    action.run s = .ok () (outcome action s).2 := by
  unfold outcome at h ⊢
  split at h
  · next runs => rw [runs]
  · cases h

private theorem throughout_cons {turn last : Session → Prop} {line : String} {rest : List String}
    (reports : (outcome reportFinishedJobs s).1 = none)
    (runs : (outcome (runLine programs line) (outcome reportFinishedJobs s).2).1 = none)
    (here : turn (outcome reportFinishedJobs s).2)
    (later : Throughout programs turn last rest
      (outcome (runLine programs line) (outcome reportFinishedJobs s).2).2) :
    Throughout programs turn last (line :: rest) s := by
  intro t told
  obtain rfl := (EStateM.Result.ok.inj ((run_of_outcome reports).symm.trans told)).2
  refine ⟨here, fun u ran _ => ?_⟩
  obtain rfl := (EStateM.Result.ok.inj ((run_of_outcome runs).symm.trans ran)).2
  exact later

/-- A child in the background that fails at once is told of at the next turn, in both sessions. -/
theorem lines_as_typed_told :
    let programs : Programs := fun _ => .atOnce (.exited 0)
    let lines := ["x < \x00 &", "status"]
    ∃ t ahead offset operations, (runLines programs lines).run (fed lines) = .ok () t ∧
      (promptLoop programs none 20).run (fed lines) =
        .ok .finished { t.readOn ahead offset with writer.operations := operations } ∧
      t.writer.written = ["background pid is 3\n", "background pid 3 is done: exit value 1\n",
        "exit value 0\n"] := by
  intro programs lines
  have offered (u : Session)
      (opened : u.machine.store.opened[u.machine.streams.input]? =
        some { node := 1, reads := true })
      (regular : u.machine.store.files.get? 1 = some (.file 0o644 (lines.flatMap Text.typed))) :
      ∃ file, u.Offers (lines.flatMap Text.typed) file :=
    ⟨_, opened, rfl, _, regular⟩
  have typable : ∀ line ∈ lines, Text.Typable line := by
    simp only [lines, List.forall_mem_cons]
    exact ⟨⟨by decide, by decide, by decide⟩, ⟨by decide, by decide, by decide⟩, nofun⟩
  have quiet : Throughout programs
      (fun t => t.InMode ∧ ∃ file, t.Offers (lines.flatMap Text.typed) file)
      (fun t => t.InMode ∧ (∃ file, t.Offers (lines.flatMap Text.typed) file) ∧ t.Uneventful)
      lines (fed lines) := by
    refine throughout_cons (by decide +kernel) (by decide +kernel) ⟨?_, offered _ ?_ ?_⟩
      (throughout_cons (by decide +kernel) (by decide +kernel) ⟨?_, offered _ ?_ ?_⟩
        ⟨?_, offered _ ?_ ?_, uneventful_of_noJobs ?_⟩)
    all_goals decide +kernel
  obtain ⟨t, ahead, offset, operations, gives, types⟩ := lines_as_typed (s := fed lines) programs
    typable (fun _ => .ended .quiet) (fun _ hm => nomatch hm) (fun _ _ => rfl) rfl (by decide) rfl
    ⟨rfl, rfl, 0o644, rfl⟩ rfl (show _ ≤ 20 by decide +kernel) quiet
  have written : (outcome (runLines programs lines) (fed lines)).2.writer.written =
      ["background pid is 3\n", "background pid 3 is done: exit value 1\n", "exit value 0\n"] := by
    decide +kernel
  rw [outcome, gives] at written
  exact ⟨t, ahead, offset, operations, gives, types, written⟩

def writtenBy {α : Type} (action : Action α) (s : Session) : List String :=
  match action.run s with
  | .ok _ t => t.writer.written
  | .error _ t => t.writer.written

/-- At the prompt the end of a job is still told when the input is over; after given lines it is
not. -/
theorem end_untold_after_lines :
    let programs : Programs := fun _ => .atOnce (.exited 0)
    let s := fed ["x < \x00 &"]
    s.InMode ∧ s.writer.Works ∧ Text.Typable "x < \x00 &" ∧
      writtenBy (runLines programs ["x < \x00 &"]) s = ["background pid is 3\n"] ∧
      writtenBy (promptLoop programs none 20) s =
        ["background pid is 3\n", "background pid 3 is done: exit value 1\n"] := by
  refine ⟨rfl, fun _ _ => rfl, ⟨by decide, by decide, by decide⟩, ?_, ?_⟩
  · decide +kernel
  · decide +kernel

end Session

end JobShell
