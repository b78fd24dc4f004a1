import JobShell.Proofs.Running
import JobShell.Session.Step

/-!
What one step of a session can do, case by case. The steps that run several lines are taken apart
into reports and single lines.
-/

namespace JobShell

/-- A step that is not made of other steps. -/
def SessionStep.IsSingle : SessionStep → Prop
  | .lines _ => False
  | _ => True

namespace Session

/-- Nothing was run in the session yet. -/
structure Fresh (s : Session) : Prop where
  status : s.shell.status = .success
  jobs : s.shell.jobs = []
  shouldExit : s.shell.shouldExit = false
  children : s.machine.children.all = []
  next : 0 < s.machine.children.next
  history : s.history = []

/-- A shell that was just started on a machine with no files. -/
def bare : Session :=
  { machine := .boot 2 {} FileSystem.root [] (.file 0o644 []) 3 .interactive }

theorem bare_fresh : bare.Fresh :=
  ⟨rfl, rfl, rfl, rfl, by decide, rfl⟩

/-- A shell that was just started on a machine with one program. -/
def equipped : Session :=
  { machine := .boot 2
      { nodes := #[.directory { parent := 0, entries := [("x", 1)] }, .program "x"] }
      FileSystem.root [] (.file 0o644 []) 3 .interactive }

theorem equipped_fresh : equipped.Fresh :=
  ⟨rfl, rfl, rfl, rfl, by decide, rfl⟩

def ExitLine (s : Session) (line : String) : Prop :=
  ∃ command, parse line s.pid = .ok (some command) ∧ command.IsExit

def runsExit (s : Session) (line : String) : Bool :=
  match parse line s.pid with
  | .ok (some command) =>
    command.argv != [] && decide (Builtin.ofName? command.name = some .exit)
  | _ => false

private theorem runsExit_iff {s : Session} {line : String} :
    s.runsExit line = true ↔ s.ExitLine line := by
  unfold runsExit
  constructor
  · intro h
    split at h
    · next command parses =>
      obtain ⟨words, name⟩ := Bool.and_eq_true_iff.mp h
      exact ⟨command, parses, bne_iff_ne.mp words, of_decide_eq_true name⟩
    · cases h
  · rintro ⟨command, parses, isExit⟩
    simp [parses, isExit.words, isExit.name]

instance (s : Session) (line : String) : Decidable (s.ExitLine line) :=
  decidable_of_iff _ runsExit_iff

/-- The state in which the jobs were asked about and those that have ended were taken out. -/
def reaping (s : Session) : Session :=
  { s with
    shell.jobs := (s.shell.jobs.reap s.machine.children).kept
    machine.children := (s.shell.jobs.reap s.machine.children).state }

def reports (s : Session) : List (Job × Status) :=
  (s.shell.jobs.reap s.machine.children).finished

def doneLines (s : Session) : List String :=
  s.reports.map fun (job, status) => doneLine job status

def remembering (s : Session) (status : Status) : Session :=
  { s with shell.status := status }

def switched (s : Session) (mode : Mode) : Session :=
  { s with shell.mode := mode }

/-- What a single step comes to: its error, if it fails, and the state it leaves. -/
inductive Stepped (s : Session) : SessionStep → Option CommandError → Session → Prop
  | blank {line : String} (parses : parse line s.pid = .ok none) : Stepped s (.line line) none s
  | refused {line : String} {e : ParseError} {error : Option CommandError} {s' : Session}
      (parses : parse line s.pid = .error e) (told : s.Told [complaint e.message] error s') :
      Stepped s (.line line) error s'
  | ran {line : String} {command : Command} {status : Status} {s' : Session}
      (parses : parse line s.pid = .ok (some command))
      (executed : s.Executed command (.ok status) s') :
      Stepped s (.line line) none (s'.remembering status)
  | broke {line : String} {command : Command} {text : String} {s' : Session}
      (parses : parse line s.pid = .ok (some command))
      (executed : s.Executed command (.error (.output text)) s') :
      Stepped s (.line line) (some (.output text)) s'
  | failed {line : String} {command : Command} {e : CommandError} {between s' : Session}
      (parses : parse line s.pid = .ok (some command))
      (executed : s.Executed command (.error e) between) (other : ∀ text, e ≠ .output text)
      (told : between.Told [complaint e.message] none s') :
      Stepped s (.line line) none (s'.remembering .failure)
  | untold {line : String} {command : Command} {e error : CommandError} {between s' : Session}
      (parses : parse line s.pid = .ok (some command))
      (executed : s.Executed command (.error e) between) (other : ∀ text, e ≠ .output text)
      (told : between.Told [complaint e.message] (some error) s') :
      Stepped s (.line line) (some error) s'
  | reported {error : Option CommandError} {s' : Session}
      (told : s.reaping.Told s.doneLines error s') : Stepped s .report error s'
  | unchanged (same : s.machine.signals.requested = s.shell.mode) : Stepped s .sync none s
  | switched {error : Option CommandError} {s' : Session}
      (told : (s.switched s.machine.signals.requested).Told
        [s.machine.signals.requested.announcement] error s') : Stepped s .sync error s'
  | around {step : SessionStep} {m : Machine} (elapses : s.machine.Elapses none m)
      (around : match step with
        | .toggle | .signal _ | .signalChild _ _ | .pass _ => True
        | _ => False) :
      Stepped s step none { s with machine := m }
  | writer (fault : Nat → WriterOperation → Option String) :
      Stepped s (.writer fault) none { s with writer.fault := fault }

variable {s s' : Session} {programs : Programs}

private theorem outcome_of_told {lines : List String} {action : Action Unit} {t : Session}
    (h : action.run s = (tell lines).run t) :
    ∃ error s', outcome action s = (error, s') ∧ t.Told lines error s' := by
  rw [outcome, h]
  rcases tell_run lines t with ⟨s', hrun, told⟩ | ⟨e, s', hrun, told⟩
  · exact ⟨none, s', by rw [hrun], told⟩
  · exact ⟨some e, s', by rw [hrun], told⟩

theorem complain_run (message : String) (s : Session) :
    (∃ s', (complain message).run s = .ok () s' ∧ s.Told [complaint message] none s') ∨
      ∃ e s', (complain message).run s = .error e s' ∧
        s.Told [complaint message] (some e) s' := by
  rw [complain_eq]
  exact tell_run _ s

theorem executeOrComplain_ok {command : Command} {status : Status}
    (h : (execute programs command).run s = .ok status s') :
    (executeOrComplain programs command).run s = .ok status s' := by
  have h' : execute programs command s = .ok status s' := h
  simp only [executeOrComplain, EStateM.run, tryCatch, tryCatchThe, MonadExceptOf.tryCatch,
    EStateM.tryCatch, h']

theorem executeOrComplain_output {command : Command} {text : String}
    (h : (execute programs command).run s = .error (.output text) s') :
    (executeOrComplain programs command).run s = .error (.output text) s' := by
  have h' : execute programs command s = .error (.output text) s' := h
  simp only [executeOrComplain, EStateM.run, tryCatch, tryCatchThe, MonadExceptOf.tryCatch,
    EStateM.tryCatch, h']
  rfl

theorem executeOrComplain_error {command : Command} {e : CommandError}
    (h : (execute programs command).run s = .error e s') (other : ∀ text, e ≠ .output text) :
    (executeOrComplain programs command).run s =
      (do complain e.message; return Status.failure : Action Status).run s' := by
  have h' : execute programs command s = .error e s' := h
  simp only [executeOrComplain, EStateM.run, tryCatch, tryCatchThe, MonadExceptOf.tryCatch,
    EStateM.tryCatch, h']
  cases e with
  | output text => exact absurd rfl (other text)
  | _ => rfl

theorem runLine_run {line : String} {command : Command}
    (h : parse line s.pid = .ok (some command)) : (runLine programs line).run s =
      match (executeOrComplain programs command).run s with
      | .ok status s' => .ok () (s'.remembering status)
      | .error e s' => .error e s' := by
  simp only [runLine, EStateM.run_bind, EStateM.run_get, h]
  cases (executeOrComplain programs command).run s <;> rfl

private theorem line_stepped (programs : Programs) (line : String)
    (hn : s.machine.children.Numbered) :
    ∃ error s', outcome (runLine programs line) s = (error, s') ∧
      s.Stepped (.line line) error s' := by
  cases hp : parse line s.pid with
  | error e =>
    have hrun : (runLine programs line).run s = (tell [complaint e.message]).run s := by
      rw [← complain_eq]
      simp only [runLine, EStateM.run_bind, EStateM.run_get, hp]
    obtain ⟨error, s', hout, told⟩ := outcome_of_told hrun
    exact ⟨error, s', hout, .refused hp told⟩
  | ok read =>
    cases read with
    | none =>
      refine ⟨none, s, ?_, .blank hp⟩
      simp only [outcome, runLine, EStateM.run_bind, EStateM.run_get, hp]
      rfl
    | some command =>
      rw [outcome, runLine_run hp]
      rcases execute_run programs command hn with ⟨status, s', hrun, executed⟩ |
        ⟨e, between, hrun, executed⟩
      · rw [executeOrComplain_ok hrun]
        exact ⟨_, _, rfl, .ran hp executed⟩
      · by_cases other : ∃ text, e = .output text
        · obtain ⟨text, rfl⟩ := other
          rw [executeOrComplain_output hrun]
          exact ⟨_, _, rfl, .broke hp executed⟩
        · have other : ∀ text, e ≠ .output text := fun text he => other ⟨text, he⟩
          rw [executeOrComplain_error hrun other, EStateM.run_bind]
          rcases complain_run e.message between with ⟨s', htold, told⟩ | ⟨error, s', htold, told⟩
          · rw [htold]
            exact ⟨_, _, rfl, .failed hp executed other told⟩
          · rw [htold]
            exact ⟨_, _, rfl, .untold hp executed other told⟩

theorem report_run (s : Session) :
    reportFinishedJobs.run s = (tell s.doneLines).run s.reaping := by
  have hlines (finished : List (Job × Status)) :
      (finished.forM fun (job, status) => writeLine (doneLine job status)) =
        (finished.map fun (job, status) => doneLine job status).forM writeLine := by
    induction finished with
    | nil => rfl
    | cons entry rest ih => exact congrArg (writeLine _ >>= fun _ => ·) ih
  simp only [reportFinishedJobs, EStateM.run_bind, EStateM.run_get, EStateM.run_set, tell, hlines]
  rfl

/-- To take on another mode is to say so. -/
theorem syncMode_run (other : s.machine.signals.requested ≠ s.shell.mode) :
    syncMode.run s = (tell [s.machine.signals.requested.announcement]).run
      (s.switched s.machine.signals.requested) := by
  rw [show tell [s.machine.signals.requested.announcement] =
    (do writeLine s.machine.signals.requested.announcement; flush) by simp [tell]]
  simp only [syncMode, EStateM.run_bind, EStateM.run_get, if_pos other]
  rfl

private theorem sync_stepped (s : Session) :
    ∃ error s', outcome syncMode s = (error, s') ∧ s.Stepped .sync error s' := by
  by_cases same : s.machine.signals.requested = s.shell.mode
  · refine ⟨none, s, ?_, .unchanged same⟩
    simp only [outcome, syncMode, EStateM.run_bind, EStateM.run_get, same, ne_eq,
      not_true_eq_false, if_false]
    rfl
  · obtain ⟨error, s', hout, told⟩ := outcome_of_told (syncMode_run same)
    exact ⟨error, s', hout, .switched told⟩

/-- Every way in which a single step can go. -/
theorem step_stepped (programs : Programs) {step : SessionStep} (single : step.IsSingle)
    (hn : s.machine.children.Numbered) :
    ∃ error s', outcome (perform programs step) s = (error, s') ∧ s.Stepped step error s' := by
  cases step with
  | line text => exact line_stepped programs text hn
  | lines texts => exact single.elim
  | report =>
    obtain ⟨error, s', hout, told⟩ := outcome_of_told (report_run s)
    exact ⟨error, s', hout, .reported told⟩
  | sync => exact sync_stepped s
  | toggle => exact ⟨_, _, rfl, .around ⟨rfl, rfl, rfl, .refl _ _⟩ trivial⟩
  | signal signal => exact ⟨_, _, rfl, .around ⟨rfl, rfl, rfl, .refl _ _⟩ trivial⟩
  | signalChild pid signal =>
    exact ⟨_, _, rfl, .around (.of_children (Children.signal_live _ (by simp) signal)) trivial⟩
  | pass time => exact ⟨_, _, rfl, .around (Machine.advance_elapses hn time) trivial⟩
  | writer fault => exact ⟨_, _, rfl, .writer fault⟩

private theorem Told.pid_eq {lines : List String} {error : Option CommandError}
    (h : s.Told lines error s') : s'.pid = s.pid := by
  rw [pid, h.machine, pid]

private theorem Executed.pid_eq {command : Command} {result : Except CommandError Status}
    (h : s.Executed command result s') : s'.pid = s.pid := by
  cases h with
  | noWords | exited | nul => rfl
  | moved words name moved =>
    obtain ⟨cwd, dir, rfl⟩ := moved
    rfl
  | reported words name told | unreported words name told => exact told.pid_eq
  | unflushed external noNul told | unspawned external noNul told => exact told.pid_eq
  | ended external noNul foreground started | unanswered external noNul foreground started =>
    exact started.pid
  | announced external noNul background started held told
  | unannounced external noNul background started held told => exact told.pid_eq.trans started.pid

/-- A shell keeps its process id. -/
theorem Stepped.pid_eq {step : SessionStep} {error : Option CommandError}
    (h : s.Stepped step error s') : s'.pid = s.pid := by
  cases h with
  | blank | unchanged | writer => rfl
  | refused parses told => exact told.pid_eq
  | ran parses executed | broke parses executed => exact executed.pid_eq
  | failed parses executed other told | untold parses executed other told =>
    exact told.pid_eq.trans executed.pid_eq
  | reported told | switched told => exact told.pid_eq
  | around elapses => exact elapses.pid

theorem after_pid (programs : Programs) {step : SessionStep} (single : step.IsSingle)
    (hn : s.machine.children.Numbered) : (s.after programs step).pid = s.pid := by
  obtain ⟨error, s', hout, stepped⟩ := step_stepped programs single hn
  rw [after, hout]
  exact stepped.pid_eq

/-- To run several lines is to report and to run a line in turn, up to the `exit` or the error that
comes first. -/
theorem after_lines (programs : Programs) (lines : List String) (s : Session) :
    ∃ steps : List SessionStep, (∀ step ∈ steps, step = .report ∨ ∃ line, step = .line line) ∧
      s.after programs (.lines lines) = s.afterAll programs steps := by
  induction lines generalizing s with
  | nil => exact ⟨[.line "exit"], by simp, rfl⟩
  | cons line rest ih =>
    simp only [after, outcome, perform, runLines, EStateM.run_bind, EStateM.run_get]
    cases hr : reportFinishedJobs.run s with
    | error e s' =>
      refine ⟨[.report], by simp, ?_⟩
      simp only [afterAll_cons, afterAll_nil, after, outcome, perform, hr]
    | ok _ s' =>
      simp only
      have first : s.after programs .report = s' := by
        simp only [after, outcome, perform, hr]
      have two (s'' : Session) (h : s'.after programs (.line line) = s'') :
          s.afterAll programs [.report, .line line] = s'' := by
        rw [afterAll_cons, afterAll_cons, afterAll_nil, first, h]
      cases hl : (runLine programs line).run s' with
      | error e s'' =>
        refine ⟨[.report, .line line], by simp, (two s'' ?_).symm⟩
        simp only [after, outcome, perform, hl]
      | ok _ s'' =>
        have second := two s'' (by simp only [after, outcome, perform, hl])
        simp only
        by_cases hexit : s''.shell.shouldExit = true
        · refine ⟨[.report, .line line], by simp, ?_⟩
          rw [if_pos hexit, second]
          rfl
        · obtain ⟨steps, hsteps, hrest⟩ := ih s''
          refine ⟨[.report, .line line] ++ steps, ?_, ?_⟩
          · intro step hm
            rcases List.mem_append.mp hm with hm | hm
            · rcases List.mem_cons.mp hm with rfl | hm
              · exact .inl rfl
              · exact .inr ⟨line, List.mem_singleton.mp hm⟩
            · exact hsteps step hm
          · rw [if_neg hexit, afterAll_append, second, ← hrest]
            rfl

/-- What every single step preserves holds after all steps. -/
theorem afterAll_invariant (programs : Programs) {holds : Session → Prop}
    (numbered : ∀ s, holds s → s.machine.children.Numbered)
    (preserved : ∀ s step error s', s.Stepped step error s' → holds s → holds s')
    (initial : holds s) (steps : List SessionStep) : holds (s.afterAll programs steps) := by
  have single : ∀ s step, step.IsSingle → holds s → holds (s.after programs step) := by
    intro s step hsingle hs
    obtain ⟨error, s', hout, stepped⟩ := step_stepped programs hsingle (numbered s hs)
    rw [after, hout]
    exact preserved s step error s' stepped hs
  have singles : ∀ (steps : List SessionStep) (s : Session), (∀ step ∈ steps, step.IsSingle) →
      holds s → holds (s.afterAll programs steps) := by
    intro steps
    induction steps with
    | nil => exact fun s _ hs => hs
    | cons step rest ih =>
      intro s hsingle hs
      exact ih _ (fun other ho => hsingle other (List.mem_cons_of_mem _ ho))
        (single s step (hsingle step List.mem_cons_self) hs)
  induction steps generalizing s with
  | nil => exact initial
  | cons step rest ih =>
    refine ih ?_
    cases step with
    | lines texts =>
      obtain ⟨parts, hparts, hafter⟩ := after_lines programs texts s
      rw [hafter]
      refine singles parts s (fun part hp => ?_) initial
      rcases hparts part hp with rfl | ⟨line, rfl⟩ <;> trivial
    | _ => exact single s _ trivial initial

end Session

end JobShell
