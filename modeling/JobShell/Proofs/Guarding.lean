import JobShell.Proofs.Announcing
import JobShell.Proofs.ForegroundOnly
import JobShell.Proofs.Verdicts

/-!
The signals of the shell and of its children over a whole session. A wait holds SIGTSTP back and lets
it through again on each way out, so every step finds the shell as its handlers were installed, and
every child that is started finds SIGTSTP let through.
-/

namespace JobShell

/-- Whether a SIGTSTP is left of what came: one did, and no SIGCONT after it. -/
def TerminalSignal.LeaveStop (heard : List TerminalSignal) : Prop :=
  (heard.filter (· ≠ .interrupt)).getLast? = some .stop

instance (heard : List TerminalSignal) : Decidable (TerminalSignal.LeaveStop heard) :=
  inferInstanceAs (Decidable (_ = _))

namespace TerminalSignal

private theorem leaveStop_iff {heard : List TerminalSignal} :
    LeaveStop heard ↔ ∃ before after, heard = before ++ .stop :: after ∧ .resume ∉ after := by
  unfold LeaveStop
  constructor
  · intro last
    obtain ⟨earlier, split⟩ := List.getLast?_eq_some_iff.mp last
    obtain ⟨first, rest, rfl, -, ends⟩ := List.filter_eq_append_iff.mp split
    obtain ⟨before, after, rfl, -, -, none⟩ := List.filter_eq_cons_iff.mp ends
    refine ⟨first ++ before, after, by rw [List.append_assoc], fun resumed => ?_⟩
    exact List.filter_eq_nil_iff.mp none _ resumed (by decide)
  · rintro ⟨before, after, rfl, unresumed⟩
    rw [List.filter_append, List.filter_cons_of_pos (by decide), List.getLast?_append_cons]
    have found := List.getLast?_eq_getLast_of_ne_nil
      (List.cons_ne_nil TerminalSignal.stop (after.filter (· ≠ .interrupt)))
    rw [found]
    have among := List.getLast_mem
      (List.cons_ne_nil TerminalSignal.stop (after.filter (· ≠ .interrupt)))
    generalize List.getLast _ _ = last at among ⊢
    rcases List.mem_cons.mp among with rfl | among
    · rfl
    · obtain ⟨came, other⟩ := List.mem_filter.mp among
      cases last with
      | interrupt => cases other
      | stop => rfl
      | resume => exact absurd came unresumed

end TerminalSignal

namespace SignalState

variable {s : SignalState}

private theorem foldl_raise_of_blocked (blocked : s.blocked = true)
    (nothingHeld : s.pending = false) (heard : List TerminalSignal) :
    heard.foldl raise s = { s with pending := decide (TerminalSignal.LeaveStop heard) } := by
  induction heard using List.reverseRecOn with
  | nil => simp [TerminalSignal.LeaveStop, ← nothingHeld]
  | append_singleton before signal ih =>
    rw [List.foldl_append, ih]
    cases signal <;> simp [TerminalSignal.LeaveStop, raise, blocked]

private theorem Ready.foldl_raise (ready : s.Ready) (heard : List TerminalSignal) :
    (heard.foldl raise s).Ready := by
  induction heard generalizing s with
  | nil => exact ready
  | cons signal rest ih =>
    refine ih ?_
    cases signal with
    | interrupt => exact ready
    | stop =>
      rw [raise_stop_of_not_blocked ready.unblocked, deliverStop_eq]
      exact ⟨ready.interrupt, ready.stop, ready.unblocked, ready.nothingHeld⟩
    | resume => exact ⟨ready.interrupt, ready.stop, ready.unblocked, rfl⟩

/-- When a guard is dropped, everything is as before it was made, but the mode that is asked for is
exchanged once if a SIGTSTP came meanwhile and was not taken back. -/
theorem Ready.unblock_foldl_raise (ready : s.Ready) (heard : List TerminalSignal) :
    (heard.foldl raise s.block).unblock =
      { s with
        requested := if TerminalSignal.LeaveStop heard then s.requested.toggled
          else s.requested } := by
  obtain ⟨interrupt, stop, unblocked, nothingHeld⟩ := ready
  rw [foldl_raise_of_blocked (s := s.block) rfl nothingHeld]
  by_cases left : TerminalSignal.LeaveStop heard
  · simp [unblock, block, deliverStop, toggleRequested, stop, unblocked, nothingHeld, left]
  · simp [unblock, block, unblocked, nothingHeld, left]

theorem Ready.requested (ready : s.Ready) (mode : Mode) :
    Ready { s with requested := mode } :=
  ⟨ready.interrupt, ready.stop, ready.unblocked, ready.nothingHeld⟩

private theorem ready_installHandlers (unblocked : s.blocked = false)
    (nothingHeld : s.pending = false) : s.installHandlers.Ready :=
  ⟨rfl, rfl, unblocked, nothingHeld⟩

end SignalState

namespace Session

def installed (s : Session) : Session :=
  { s with machine.signals := s.machine.signals.installHandlers }

/-- The shell treats its signals as its handlers do, and every child that has reached its program did
so with SIGTSTP ignored and let through. -/
structure Orderly (s : Session) : Prop where
  ready : s.machine.signals.Ready
  launches : ∀ launch, .launched launch ∈ s.history →
    launch.policy.stop = .ignore ∧ launch.stopBlocked = false

variable {programs : Programs} {s t : Session} {command : Command} {line : String}

theorem Orderly.frame (hs : s.Orderly) (signals : t.machine.signals.Ready)
    (history : t.history = s.history) : t.Orderly :=
  ⟨signals, history ▸ hs.launches⟩

private theorem launch_of_mem_started {background : Bool} {pid : Pid} {text : String}
    {launch : Launch} (h : .launched launch ∈ .created pid text ::
      (Departure.make programs s command background).launch.toList.map Event.launched) :
    launch.policy = .forChild background ∧ launch.stopBlocked = s.machine.signals.blocked := by
  obtain ⟨found, hfound, heq⟩ := List.mem_map.mp (List.mem_of_ne_of_mem (by simp) h)
  obtain rfl := Event.launched.inj heq
  obtain ⟨image, rfl⟩ := Departure.launch_eq (Option.mem_toList.mp hfound)
  exact ⟨rfl, rfl⟩

private theorem orderly_startChild (programs : Programs) (command : Command) (background : Bool) :
    Coupled (Both Orderly) (startChild programs command background)
      (startChild programs command background) := by
  rintro _ s ⟨rfl, hs⟩
  have started : (departed programs s command background).Orderly := by
    refine ⟨hs.ready, fun launch hm => ?_⟩
    rcases List.mem_append.mp hm with hm | hm
    · exact hs.launches launch hm
    · obtain ⟨policy, blocked⟩ := launch_of_mem_started hm
      exact ⟨by rw [policy]; rfl, blocked.trans hs.ready.unblocked⟩
  rw [startChild_run]
  refine .ok _ ⟨rfl, ?_⟩
  split
  · refine started.frame ?_ rfl
    rw [Machine.signals_advance]
    exact started.ready.foldl_raise _
  · exact started

/-- The guard is dropped whatever the answer to the wait is. -/
theorem waitForeground_leaves {pid : Pid} (h : Leaves (waitForeground pid) s t) :
    let held := { s.machine with signals := s.machine.signals.block }
    t = { s with machine :=
      { (held.await pid).2 with signals := (held.await pid).2.signals.unblock } } := by
  intro held
  cases waited : held.await pid with
  | mk answer between =>
    have runs := waitForeground_run s waited
    cases answer with
    | ok ending => exact eq_of_leaves_ok runs h
    | error fault =>
      rcases h with ⟨x, hrun⟩ | ⟨e, hrun⟩
      · cases runs.symm.trans hrun
      · cases runs.symm.trans hrun
        rfl

private theorem orderly_waitForeground (pid : Pid) :
    Coupled (Both Orderly) (waitForeground pid) (waitForeground pid) := by
  rintro _ s ⟨rfl, hs⟩
  have keeps {t : Session} (leaves : Leaves (waitForeground pid) s t) : t.Orderly := by
    rw [waitForeground_leaves leaves]
    refine hs.frame ?_ rfl
    rw [Machine.signals_await, hs.ready.unblock_foldl_raise]
    exact hs.ready.requested _
  cases hrun : (waitForeground pid).run s with
  | ok status t => exact .ok _ ⟨rfl, keeps (.inl ⟨_, hrun⟩)⟩
  | error e t => exact .error _ ⟨rfl, keeps (.inr ⟨_, hrun⟩)⟩

private theorem orderly_speech : SameSpeech (Both Orderly) :=
  both_speech (fun _ _ hs => hs.frame hs.ready rfl) fun _ _ hs => hs.frame hs.ready rfl

private theorem orderly_builtin (args : List String) (builtin : Builtin) :
    Coupled (Both Orderly) (builtin.run args) (builtin.run args) := by
  refine both_builtin orderly_speech (fun s hs => ⟨hs.ready, fun launch hm => ?_⟩) ?_ args builtin
  · rcases List.mem_append.mp hm with hm | hm
    · exact hs.launches launch hm
    · simp at hm
  · rintro s _ ⟨cwd, dir, rfl⟩ hs
    exact hs.frame hs.ready rfl

private theorem orderly_respected (programs : Programs) : Respected programs (Both Orderly) :=
  both_respected orderly_speech (fun _ _ hs => hs.frame hs.ready rfl)
    (fun _ _ _ hs => hs.frame hs.ready rfl) (fun _ hs => hs.frame hs.ready rfl)
    (fun _ hs => hs.frame hs.ready rfl)
    (orderly_startChild programs) orderly_waitForeground

/-- Every step leaves the signals in order, whether it fails or not. -/
theorem Orderly.after (hs : s.Orderly) (programs : Programs) (step : SessionStep) :
    (s.after programs step).Orderly := by
  have respected := orderly_respected programs
  have keeps {action : Action Unit} (keeps : Coupled (Both Orderly) action action) :
      (outcome action s).2.Orderly :=
    keeps.holds_of_leaves hs (leaves_outcome action s)
  cases step with
  | line text => exact keeps (respected.line orderly_builtin text)
  | lines texts => exact keeps (respected.lines orderly_builtin texts)
  | report => exact keeps respected.report
  | sync =>
    refine keeps (respected.sync ?_)
    rintro _ s mode ⟨rfl, hs⟩
    exact ⟨rfl, hs.frame hs.ready rfl⟩
  | toggle => exact hs.frame (hs.ready.requested _) rfl
  | signal signal => exact hs.frame (hs.ready.foldl_raise [signal]) rfl
  | signalChild pid signal => exact hs.frame hs.ready rfl
  | pass time =>
    refine hs.frame ?_ rfl
    exact (Machine.signals_advance s.machine time).symm ▸ hs.ready.foldl_raise _
  | writer fault => exact hs.frame hs.ready rfl

theorem Orderly.afterAll (hs : s.Orderly) (programs : Programs) (steps : List SessionStep) :
    (s.afterAll programs steps).Orderly := by
  induction steps generalizing s with
  | nil => exact hs
  | cons step rest ih => exact ih (hs.after programs step)

/-! How the children of one line are started. -/

/-- Nothing was launched since, but with the dispositions of a child in the background or not. -/
structure LaunchedOnly (background : Bool) (s t : Session) : Prop where
  mode : t.shell.mode = s.shell.mode
  history : ∃ events, t.history = s.history ++ events ∧
    ∀ launch, .launched launch ∈ events → launch.policy = .forChild background

theorem LaunchedOnly.frame {background : Bool} {t' : Session} (h : LaunchedOnly background s t)
    (mode : t'.shell.mode = t.shell.mode) (history : t'.history = t.history) :
    LaunchedOnly background s t' :=
  ⟨mode.trans h.mode, by rw [history]; exact h.history⟩

theorem LaunchedOnly.extend {background : Bool} {t' : Session} (h : LaunchedOnly background s t)
    (mode : t'.shell.mode = t.shell.mode) {events : List Event}
    (history : t'.history = t.history ++ events)
    (launches : ∀ launch, .launched launch ∈ events → launch.policy = .forChild background) :
    LaunchedOnly background s t' := by
  obtain ⟨mode', before, hbefore, hlaunches⟩ := h
  refine ⟨mode.trans mode', before ++ events, by rw [history, hbefore, List.append_assoc], ?_⟩
  intro launch hm
  rcases List.mem_append.mp hm with hm | hm
  · exact hlaunches launch hm
  · exact launches launch hm

section
variable {background : Bool}

private theorem launchedOnly_speech : SameSpeech (Both (LaunchedOnly background s)) :=
  both_speech (fun _ _ h => h.frame rfl rfl) fun _ _ h => h.frame rfl rfl

private theorem launchedOnly_builtin (args : List String) (builtin : Builtin) :
    Coupled (Both (LaunchedOnly background s)) (builtin.run args) (builtin.run args) := by
  refine both_builtin launchedOnly_speech (fun t h => ?_) ?_ args builtin
  · exact h.extend (show t.exited.shell.mode = t.shell.mode from rfl) rfl (by simp)
  · rintro t _ ⟨cwd, dir, rfl⟩ h
    exact h.frame rfl rfl

private theorem launchedOnly_runChild (programs : Programs) (command : Command) :
    Coupled (Both (LaunchedOnly background s)) (runChild programs command background)
      (runChild programs command background) := by
  have starts : Coupled (Both (LaunchedOnly background s))
      (startChild programs command background) (startChild programs command background) := by
    rintro _ t ⟨rfl, h⟩
    have started : LaunchedOnly background s (departed programs t command background) :=
      h.extend rfl rfl fun launch hm => (launch_of_mem_started hm).1
    rw [startChild_run]
    refine .ok _ ⟨rfl, ?_⟩
    split
    · exact started.frame rfl rfl
    · exact started
  refine launchedOnly_speech.flush.bind fun _ =>
    (both_fork fun t h => h.frame rfl rfl).bind fun _ => starts.bind fun pid => ?_
  split
  · refine (both_modify fun t h => h.frame rfl rfl).bind fun _ =>
      (launchedOnly_speech.writeLine _).bind fun _ => launchedOnly_speech.flush.bind fun _ =>
        both_get_bind fun _ _ => coupled_pure _
  · exact keeps_waitForeground pid fun t m h => h.frame rfl rfl

end

private theorem launchedOnly_line (programs : Programs)
    (parses : parse line s.pid = .ok (some command)) :
    LaunchedOnly (command.background && s.shell.mode.allowsBackground) s
      (s.after programs (.line line)) := by
  generalize hb : (command.background && s.shell.mode.allowsBackground) = background
  have executes : Coupled (Both (LaunchedOnly background s)) (execute programs command)
      (execute programs command) := by
    refine coupled_execute rfl ?_ (fun builtin _ => launchedOnly_builtin _ builtin) ?_
    · rintro t _ ⟨rfl, -⟩
      rfl
    · rintro t _ ⟨rfl, h⟩
      rw [h.mode, hb]
      exact launchedOnly_runChild programs command _ _ ⟨rfl, h⟩
  have start : LaunchedOnly background s s := ⟨rfl, [], by simp, by simp⟩
  have alike := coupled_executeOrComplain launchedOnly_speech executes s s ⟨rfl, start⟩
  refine (runLine_alike ?_ parses parses alike).outcome.2.2
  rintro t _ status ⟨rfl, h⟩
  exact ⟨rfl, h.frame rfl rfl⟩

private theorem Stepped.history_eq {step : SessionStep} {error : Option CommandError}
    (h : s.Stepped step error t)
    (other : ∀ line command, step = .line line → parse line s.pid ≠ .ok (some command)) :
    t.history = s.history := by
  cases h with
  | blank | unchanged | around | writer => rfl
  | refused parses told => exact told.history
  | ran parses | broke parses | failed parses | untold parses =>
    exact absurd parses (other _ _ rfl)
  | reported told | switched told => exact told.history

/-! The wait for a foreground child. -/

/-- The machine when the shell begins to wait for the child of a command. -/
def guarded (programs : Programs) (s : Session) (command : Command) : Machine :=
  { (departed programs s command false).machine with signals := s.machine.signals.block }

private theorem machine_of_leaves (external : command.IsExternal)
    (noNul : hasNul command.argv = false)
    (flushes : s.writer.fault s.writer.operations .flush = none)
    (granted : s.refusal s.forks = none)
    (foreground : (command.background && s.shell.mode.allowsBackground) = false)
    (leaves : Leaves (execute programs command) s t) :
    let reaped := ((guarded programs s command).await s.machine.children.next).2
    t.machine = { reaped with signals := reaped.signals.unblock } := by
  have flushed : flush.run s = .ok () s.counted := by
    rw [flush, operate_run, flushes]
  have forks : fork.run s.counted = .ok () s.counted.forked := by
    rw [fork_run, show s.counted.refusal s.counted.forks = none from granted]
  have runs : (execute programs command).run s = (runChild programs command false).run s := by
    simp only [execute, runExternal, EStateM.run_bind, EStateM.run_get, if_neg external.words,
      external.name, if_neg (ne_true_of_eq_false noNul), foreground]
  unfold Leaves at leaves
  rw [runs] at leaves
  change Leaves (runChild programs command false) s t at leaves
  rw [runChild, leaves_bind_of_ok flushed, leaves_bind_of_ok forks,
    leaves_bind_of_ok (startChild_run programs s.counted.forked command false)] at leaves
  simp only [Bool.false_eq_true, if_false] at leaves
  exact congrArg Session.machine (waitForeground_leaves leaves)

/-- The child of a command that is run in the foreground is let go of before the guard is dropped. -/
theorem reaped_gone (hn : s.machine.children.Numbered) (external : command.IsExternal)
    (noNul : hasNul command.argv = false)
    (flushes : s.writer.fault s.writer.operations .flush = none)
    (granted : s.refusal s.forks = none)
    (foreground : (command.background && s.shell.mode.allowsBackground) = false) :
    ∃ ending, ((guarded programs s command).await s.machine.children.next).2.children.state?
      s.machine.children.next = some (.gone ending) := by
  obtain ⟨t, leaves⟩ := exists_leaves (execute programs command) s
  obtain ⟨result, executed⟩ := executed_of_leaves hn leaves
  obtain ⟨-, child, ending, started, gone, -⟩ | ⟨background, -⟩ :=
    executed.of_external external noNul flushes granted
  · have waited := machine_of_leaves external noNul flushes granted foreground leaves
    have there := child_gone hn started gone
    rw [waited] at there
    exact ⟨ending, there⟩
  · rw [foreground] at background
    cases background

private theorem requested_of_leaves (ready : s.machine.signals.Ready)
    (external : command.IsExternal) (noNul : hasNul command.argv = false)
    (flushes : s.writer.fault s.writer.operations .flush = none)
    (granted : s.refusal s.forks = none)
    (foreground : (command.background && s.shell.mode.allowsBackground) = false)
    (leaves : Leaves (execute programs command) s t) :
    t.machine.signals.requested =
      if TerminalSignal.LeaveStop
          ((guarded programs s command).heardSettling s.machine.children.next) then
        s.machine.signals.requested.toggled
      else s.machine.signals.requested := by
  rw [machine_of_leaves external noNul flushes granted foreground leaves, Machine.signals_await]
  exact congrArg SignalState.requested (ready.unblock_foldl_raise _)

private theorem history_after {step : SessionStep} (programs : Programs)
    (numbered : s.machine.children.Numbered) (single : step.IsSingle)
    (other : ∀ line command, step = .line line → parse line s.pid ≠ .ok (some command)) :
    (s.after programs step).history = s.history := by
  obtain ⟨error, t, hout, stepped⟩ := step_stepped programs single numbered
  rw [after, hout]
  exact stepped.history_eq other

private theorem launches_after_line (programs : Programs)
    (numbered : s.machine.children.Numbered) (line : String) :
    ∃ events, (s.after programs (.line line)).history = s.history ++ events ∧
      ∀ launch, .launched launch ∈ events →
        ∃ command, parse line s.pid = .ok (some command) ∧ launch.policy.interrupt =
          if command.background && s.shell.mode.allowsBackground then .ignore else .default := by
  by_cases parses : ∃ command, parse line s.pid = .ok (some command)
  · obtain ⟨command, parses⟩ := parses
    obtain ⟨-, events, history, launches⟩ := launchedOnly_line programs parses
    refine ⟨events, history, fun launch hm => ⟨command, parses, ?_⟩⟩
    rw [launches launch hm]
    rfl
  · refine ⟨[], ?_, by simp⟩
    rw [List.append_nil]
    refine history_after programs numbered trivial fun _ command isLine found =>
      parses ⟨command, ?_⟩
    rwa [SessionStep.line.inj isLine]

theorem Fresh.installed (fresh : s.Fresh) : s.installed.Fresh :=
  ⟨fresh.status, fresh.jobs, fresh.shouldExit, fresh.children, fresh.next, fresh.history⟩

/-- Once the handlers of the shell are installed, every step finds and leaves SIGINT ignored, SIGTSTP
with its handler, and nothing held back. A child reaches its program with SIGTSTP ignored and let
through, and with SIGINT ignored if it runs in the background and not otherwise; only lines start
children. While the shell waits for a child the mode that is asked for stays what it was; when the
child is gone and the guard is dropped, it is exchanged once if any SIGTSTP came after the last
SIGCONT, and otherwise not. -/
theorem signals_in_order (programs : Programs) (fresh : s.Fresh)
    (unblocked : s.machine.signals.blocked = false) (nothingHeld : s.machine.signals.pending = false)
    (steps : List SessionStep) :
    let s' := s.installed.afterAll programs steps
    s'.machine.signals.Ready ∧
    (∀ launch, .launched launch ∈ s'.history →
      launch.policy.stop = .ignore ∧ launch.stopBlocked = false) ∧
    (∀ line, ∃ events, (s'.after programs (.line line)).history = s'.history ++ events ∧
      ∀ launch, .launched launch ∈ events →
        ∃ command, parse line s'.pid = .ok (some command) ∧ launch.policy.interrupt =
          if command.background && s'.shell.mode.allowsBackground then .ignore else .default) ∧
    (∀ step, step.IsSingle → (∀ line, step ≠ .line line) →
      (s'.after programs step).history = s'.history) ∧
    ∀ command, command.IsExternal → hasNul command.argv = false →
      s'.writer.fault s'.writer.operations .flush = none → s'.refusal s'.forks = none →
      (command.background && s'.shell.mode.allowsBackground) = false →
      let pid := s'.machine.children.next
      let held := guarded programs s' command
      let reaped := (held.await pid).2
      reaped.signals.blocked = true ∧
      reaped.signals.requested = s'.machine.signals.requested ∧
      (∃ ending, reaped.children.state? pid = some (.gone ending)) ∧
      ∀ t, Leaves (execute programs command) s' t →
        t.machine = { reaped with signals := reaped.signals.unblock } ∧
        ((∃ before after, held.heardSettling pid = before ++ .stop :: after ∧ .resume ∉ after) →
          t.machine.signals.requested = s'.machine.signals.requested.toggled) ∧
        ((∀ before after, held.heardSettling pid = before ++ .stop :: after → .resume ∈ after) →
          t.machine.signals.requested = s'.machine.signals.requested) := by
  intro s'
  have start : s.installed.Orderly :=
    ⟨SignalState.ready_installHandlers unblocked nothingHeld, by simp [fresh.installed.history]⟩
  have orderly : s'.Orderly := start.afterAll programs steps
  have numbered : s'.machine.children.Numbered :=
    (afterAll_tracked programs fresh.installed.tracked steps).numbered
  refine ⟨orderly.ready, orderly.launches, launches_after_line programs numbered,
    fun step single other => history_after programs numbered single fun line _ isLine =>
      absurd isLine (other line), ?_⟩
  intro command external noNul flushes granted foreground pid held reaped
  have heard : reaped.signals =
      (held.heardSettling pid).foldl SignalState.raise s'.machine.signals.block :=
    Machine.signals_await held pid
  have raised := SignalState.foldl_raise_of_blocked (s := s'.machine.signals.block) rfl
    orderly.ready.nothingHeld (held.heardSettling pid)
  refine ⟨by rw [heard, raised]; rfl, by rw [heard, raised]; rfl,
    reaped_gone numbered external noNul flushes granted foreground, fun t leaves => ?_⟩
  have requested :=
    requested_of_leaves orderly.ready external noNul flushes granted foreground leaves
  refine ⟨machine_of_leaves external noNul flushes granted foreground leaves, fun left => ?_,
    fun takenBack => ?_⟩
  · rw [requested, if_pos (TerminalSignal.leaveStop_iff.mpr left)]
  · rw [requested, if_neg]
    rw [TerminalSignal.leaveStop_iff]
    rintro ⟨before, after, split, none⟩
    exact none (takenBack before after split)

private def plainX : Command :=
  { argv := ["/x"], text := "/x" }

private theorem heard_plainX : (guarded nagging equipped.installed plainX).heardSettling 3 =
    [.stop] := by
  decide +kernel

/-- The child asks for the other mode while it is waited for. -/
theorem signals_in_order_nagging :
    ∃ t, Leaves (execute nagging plainX) equipped.installed t ∧
      t.machine.signals.requested = .foregroundOnly := by
  obtain ⟨-, -, -, -, waits⟩ := signals_in_order nagging equipped_fresh rfl rfl []
  obtain ⟨t, leaves⟩ := exists_leaves (execute nagging plainX) equipped.installed
  obtain ⟨-, -, -, ends⟩ := waits plainX ⟨by simp [plainX], by decide +kernel⟩ (by decide +kernel)
    rfl rfl rfl
  refine ⟨t, leaves, (ends t leaves).2.1 ⟨[], [], ?_, by simp⟩⟩
  exact heard_plainX

/-- A program that sends SIGTSTP to the shell that started it, and takes that back. -/
def wavering : Programs := fun launch =>
  .doing (fun scene =>
      { store := scene.store, sent := [(launch.parent, .terminalStop), (launch.parent, .resume)] })
    fun _ => .exited 0

/-- What is taken back during a wait has no effect after it. -/
theorem stop_taken_back :
    .stop ∈ (guarded wavering equipped plainX).heardSettling equipped.machine.children.next ∧
      ∃ t, Leaves (execute wavering plainX) equipped t ∧
        t.machine.signals.requested = equipped.machine.signals.requested := by
  have heard : (guarded wavering equipped plainX).heardSettling equipped.machine.children.next =
      [.stop, .resume] := by
    decide +kernel
  obtain ⟨t, leaves⟩ := exists_leaves (execute wavering plainX) equipped
  have requested := requested_of_leaves ⟨rfl, rfl, rfl, rfl⟩ ⟨by simp [plainX], by decide +kernel⟩
    (by decide +kernel) rfl rfl rfl leaves
  rw [heard] at requested ⊢
  exact ⟨List.mem_cons_self, t, leaves, requested⟩

end Session

end JobShell
