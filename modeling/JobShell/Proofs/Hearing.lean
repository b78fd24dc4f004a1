import JobShell.Proofs.Deliveries
import JobShell.Proofs.Speech
import JobShell.Proofs.Typing

/-!
What is done about the signals of the shell in a session, step by step. While time goes by its
children may send it signals of the terminal; while it waits for a child it holds them back. Nothing
else but a request or a signal from outside concerns them.
-/

namespace JobShell.Machine

def heardOf (m : Machine) (apart : Option Pid) (sent : List (Pid × Signal)) : List TerminalSignal :=
  sent.filterMap fun entry =>
    if apart ≠ some entry.1 ∧ entry.1 = (m.pid.toNat : Pid) then TerminalSignal.ofSignal? entry.2
    else none

/-- What reaches the shell when a child, or what it left behind, does what is due. -/
def heardInAct (m : Machine) (apart : Option Pid) (child : Child) : List TerminalSignal :=
  match child.state with
  | .running _ (.later _ deed ..) => m.heardOf apart (deed m.scene).sent
  | .running .. | .stopped .. => []
  | .ended _ | .gone _ =>
    match child.rest with
    | (_, .later _ deed ..) => m.heardOf apart (deed m.scene).sent
    | (_, .quiet) => []

/-- What reaches the shell while the clock goes on to `limit`, or to the first signal to `apart`
that concerns it. -/
def heardUntil (fuel limit : Nat) (apart : Option Pid) (concerns : Signal → Bool) (m : Machine) :
    List TerminalSignal :=
  match fuel with
  | 0 => []
  | fuel + 1 =>
    match m.nextDue? apart with
    | none => []
    | some (child, due) =>
      if limit < due then []
      else
        let m := { m with children := m.children.setClock due }
        let (later, signals) := m.act apart child
        m.heardInAct apart child ++
          match signals.find? concerns with
          | some _ => []
          | none => heardUntil fuel limit apart concerns later

def heardDuring (m : Machine) (time : Nat) : List TerminalSignal :=
  let limit := m.children.now + time
  m.heardUntil (m.fuelUntil limit) limit none fun _ => false

def heardFollowing (pid : Pid) (since : Nat) : Behaviour → Machine → List TerminalSignal
  | .ended .., _ => []
  | .later delay deed next reaction caught .., m =>
    let limit := since + delay + 1
    let concerns (signal : Signal) : Bool :=
      signal == .kill || reaction signal == .caught ||
        (reaction signal == .default && signal.action == .terminate)
    m.heardUntil (m.fuelUntil limit) limit (some pid) concerns ++
      match m.runUntil (m.fuelUntil limit) limit (some pid) concerns with
      | (m, some signal) =>
        let now := m.children.now
        if signal ≠ .kill ∧ reaction signal = .caught then
          heardFollowing pid now (caught signal (now - since)) m
        else []
      | (m, none) =>
        let scene := m.scene
        m.heardOf (some pid) (deed scene).sent ++
          heardFollowing pid m.children.now (next scene) (m.perform (some pid) (deed scene)).1

/-- What reaches the shell until a running child has ended. -/
def heardSettling (m : Machine) (pid : Pid) : List TerminalSignal :=
  match m.children.state? pid with
  | some (.running since behaviour) => heardFollowing pid since behaviour m
  | _ => []

variable {m : Machine} {apart : Option Pid}

private theorem heardOf_cons (m : Machine) (apart : Option Pid) (pid : Pid) (signal : Signal)
    (rest : List (Pid × Signal)) : m.heardOf apart ((pid, signal) :: rest) =
      (if apart ≠ some pid ∧ pid = (m.pid.toNat : Pid) then (TerminalSignal.ofSignal? signal).toList
        else []) ++ m.heardOf apart rest := by
  unfold heardOf
  rw [List.filterMap_cons]
  by_cases own : apart ≠ some pid ∧ pid = (m.pid.toNat : Pid)
  · simp only [if_pos own]
    cases TerminalSignal.ofSignal? signal <;> rfl
  · simp only [if_neg own]
    rfl

private theorem heardOf_deliver (m : Machine) (pid : Pid) (signal : Signal)
    (sent : List (Pid × Signal)) :
    (m.deliver pid signal).heardOf apart sent = m.heardOf apart sent := by
  have same : (m.deliver pid signal).pid = m.pid := by
    unfold deliver
    split
    · split <;> rfl
    · rfl
  rw [heardOf, same, heardOf]

private theorem signals_deliver (m : Machine) (pid : Pid) (signal : Signal) :
    (m.deliver pid signal).signals =
      (if pid = (m.pid.toNat : Pid) then (TerminalSignal.ofSignal? signal).toList else []).foldl
        SignalState.raise m.signals := by
  unfold deliver
  split
  · cases TerminalSignal.ofSignal? signal <;> rfl
  · rfl

private theorem signals_foldl_deliver (apart : Option Pid) (sent : List (Pid × Signal))
    (m : Machine) (kept : List Signal) :
    (sent.foldl (fun (m, kept) (pid, signal) =>
      if apart = some pid then (m, kept ++ [signal]) else (m.deliver pid signal, kept))
      (m, kept)).1.signals = (m.heardOf apart sent).foldl SignalState.raise m.signals := by
  induction sent generalizing m kept with
  | nil => rfl
  | cons entry rest ih =>
    obtain ⟨pid, signal⟩ := entry
    rw [List.foldl_cons, heardOf_cons, List.foldl_append]
    by_cases isApart : apart = some pid
    · simp only [isApart, ne_eq, not_true_eq_false, false_and, if_true, if_false, List.foldl_nil]
      rw [← isApart, ih]
    · simp only [isApart, ne_eq, not_false_eq_true, true_and, if_false]
      rw [ih, heardOf_deliver, signals_deliver]

private theorem signals_perform (m : Machine) (apart : Option Pid) (deed : Deed) :
    (m.perform apart deed).1.signals =
      (m.heardOf apart deed.sent).foldl SignalState.raise m.signals :=
  signals_foldl_deliver apart deed.sent { m with store := deed.store } []

private theorem signals_act (m : Machine) (apart : Option Pid) (child : Child) :
    (m.act apart child).1.signals =
      (m.heardInAct apart child).foldl SignalState.raise m.signals := by
  unfold act heardInAct
  cases child.state with
  | running since behaviour =>
    cases behaviour with
    | ended => rfl
    | later => exact signals_perform _ apart _
  | stopped => rfl
  | ended ending =>
    obtain ⟨since, activity⟩ := child.rest
    cases activity with
    | quiet => rfl
    | later => exact signals_perform _ apart _
  | gone ending =>
    obtain ⟨since, activity⟩ := child.rest
    cases activity with
    | quiet => rfl
    | later => exact signals_perform _ apart _

private theorem signals_runUntil (fuel limit : Nat) (apart : Option Pid) (concerns : Signal → Bool)
    (m : Machine) : (m.runUntil fuel limit apart concerns).1.signals =
      (m.heardUntil fuel limit apart concerns).foldl SignalState.raise m.signals := by
  induction fuel generalizing m with
  | zero => rfl
  | succ fuel ih =>
    rw [runUntil, heardUntil]
    cases m.nextDue? apart with
    | none => rfl
    | some found =>
      obtain ⟨child, due⟩ := found
      dsimp only
      split
      · rfl
      · rw [List.foldl_append]
        have acted := signals_act { m with children := m.children.setClock due } apart child
        dsimp only at acted
        rw [← acted]
        cases (act { m with children := m.children.setClock due } apart child).2.find? concerns with
        | some signal => rfl
        | none => exact ih _

theorem signals_advance (m : Machine) (time : Nat) :
    (m.advance time).signals = (m.heardDuring time).foldl SignalState.raise m.signals :=
  signals_runUntil _ _ _ _ m

private theorem signals_follow (pid : Pid) (since : Nat) (behaviour : Behaviour) (m : Machine) :
    (follow pid since behaviour m).signals =
      (heardFollowing pid since behaviour m).foldl SignalState.raise m.signals := by
  induction behaviour generalizing m since with
  | ended ending rest => rfl
  | later delay deed next reaction caught rest holds ihNext ihCaught =>
    rw [follow, heardFollowing, List.foldl_append, ← signals_runUntil]
    generalize m.runUntil (m.fuelUntil (since + delay + 1)) (since + delay + 1) (some pid)
      (fun signal => signal == .kill || reaction signal == .caught ||
        (reaction signal == .default && signal.action == .terminate)) = ran
    obtain ⟨m', stop⟩ := ran
    cases stop with
    | some signal =>
      dsimp only
      split
      · exact ihCaught _ _ _ _
      · rfl
    | none =>
      dsimp only
      rw [List.foldl_append, ← signals_perform, ihNext]

private theorem signals_settle (m : Machine) (pid : Pid) :
    (m.settle pid).signals = (m.heardSettling pid).foldl SignalState.raise m.signals := by
  unfold settle heardSettling
  cases m.children.state? pid with
  | none => rfl
  | some state =>
    cases state with
    | running since behaviour => exact signals_follow pid since behaviour m
    | _ => rfl

theorem signals_await (m : Machine) (pid : Pid) :
    (m.await pid).2.signals = (m.heardSettling pid).foldl SignalState.raise m.signals :=
  signals_settle m pid

end JobShell.Machine

namespace JobShell

private theorem SignalState.afterAll_map_raise (s : SignalState) (heard : List TerminalSignal) :
    s.afterAll (heard.map .raise) = heard.foldl raise s := by
  rw [afterAll, List.foldl_map]
  rfl

namespace Session

/-- What is done about the signals of the shell when a child is started for a command. Those that
come in the first moment of a background child count at once; the wait for a foreground child holds
them back to its end. -/
def childSignals (programs : Programs) (s : Session) (command : Command) (background : Bool) :
    List SignalStep :=
  let m := (departed programs s command background).machine
  if background then (m.heardDuring 1).map .raise
  else
    let m := { m with signals := m.signals.block }
    .block :: (m.heardSettling s.machine.children.next).map .raise ++ [.unblock]

def commandSignals (programs : Programs) (s : Session) (command : Command) : List SignalStep :=
  if command.argv ≠ [] ∧ Builtin.ofName? command.name = none ∧ hasNul command.argv = false ∧
      s.refusal s.forks = none then
    s.childSignals programs command (command.background && s.shell.mode.allowsBackground)
  else []

def stepSignals (programs : Programs) (s : Session) : SessionStep → List SignalStep
  | .line text =>
    match parse text s.pid with
    | .ok (some command) => s.commandSignals programs command
    | _ => []
  | .toggle => [.toggle]
  | .signal signal => [.raise signal]
  | .pass time => (s.machine.heardDuring time).map .raise
  | _ => []

def signalSteps (programs : Programs) (s : Session) : List SessionStep → List SignalStep
  | [] => []
  | step :: rest => s.stepSignals programs step ++ (s.after programs step).signalSteps programs rest

variable {programs : Programs} {s t : Session} {α β : Type}

theorem leaves_bind_of_ok {action : Action α} {f : α → Action β} {x : α} {s' : Session}
    (runs : action.run s = .ok x s') : Leaves (action >>= f) s t ↔ Leaves (f x) s' t := by
  simp only [Leaves, EStateM.run_bind, runs]

private theorem leaves_get_bind {f : Session → Action α} :
    Leaves ((get : Action Session) >>= f) s t ↔ Leaves (f s) s t :=
  leaves_bind_of_ok rfl

theorem eq_of_leaves_ok {action : Action α} {x : α} {s' : Session} (runs : action.run s = .ok x s')
    (leaves : Leaves action s t) : t = s' := by
  rcases leaves with ⟨y, hrun⟩ | ⟨e, hrun⟩
  · cases runs.symm.trans hrun
    rfl
  · cases runs.symm.trans hrun

section
variable {signals : SignalState}

private theorem sameSignals_speech : SameSpeech (Both fun s => s.machine.signals = signals) :=
  both_speech (fun _ _ same => same) fun _ _ same => same

private theorem sameSignals_modifyShell (f : Shell → Shell) :
    Coupled (Both fun s => s.machine.signals = signals) (modifyShell f) (modifyShell f) :=
  both_modify fun _ same => same

private theorem sameSignals_builtin (args : List String) (builtin : Builtin) :
    Coupled (Both fun s => s.machine.signals = signals) (builtin.run args) (builtin.run args) := by
  refine both_builtin sameSignals_speech (fun _ same => same) ?_ args builtin
  rintro s _ ⟨cwd, dir, rfl⟩ same
  exact same

private theorem sameSignals_record (pid : Pid) (text : String) :
    Coupled (Both fun s => s.machine.signals = signals) (recordBackground pid text)
      (recordBackground pid text) :=
  (sameSignals_modifyShell _).bind fun _ => (sameSignals_speech.writeLine _).bind fun _ =>
    sameSignals_speech.flush.bind fun _ => both_get_bind fun _ _ => coupled_pure _

private theorem sameSignals_report : Coupled (Both fun s => s.machine.signals = signals)
    reportFinishedJobs reportFinishedJobs :=
  both_get_bind fun _ same => (both_set same).bind fun _ =>
    (coupled_forM _ fun _ _ => sameSignals_speech.writeLine _).bind fun _ =>
      sameSignals_speech.flush

private theorem sameSignals_sync : Coupled (Both fun s => s.machine.signals = signals)
    syncMode syncMode := by
  refine both_get_bind fun s _ => ?_
  dsimp only
  split
  · exact (sameSignals_modifyShell _).bind fun _ => (sameSignals_speech.writeLine _).bind fun _ =>
      sameSignals_speech.flush
  · exact coupled_pure ()

end

private theorem signals_refused (works : s.writer.Works) {fault : Fault}
    (refuses : s.refusal s.forks = some fault) {command : Command} {background : Bool}
    (leaves : Leaves (runChild programs command background) s t) :
    t.machine.signals = s.machine.signals := by
  have flushes : flush.run s = .ok () s.counted := operate_works works .flush
  have forks : fork.run s.counted = .error (.spawn fault) s.counted.forked := by
    rw [fork_run, show s.counted.refusal s.counted.forks = some fault from refuses]
  rw [runChild, leaves_bind_of_ok flushes] at leaves
  simp only [Leaves, EStateM.run_bind, forks] at leaves
  rcases leaves with ⟨x, hrun⟩ | ⟨e, hrun⟩ <;> cases hrun
  rfl

private theorem signals_runChild (works : s.writer.Works) (granted : s.refusal s.forks = none)
    {command : Command} {background : Bool}
    (leaves : Leaves (runChild programs command background) s t) :
    t.machine.signals =
      s.machine.signals.afterAll (s.childSignals programs command background) := by
  have flushes : flush.run s = .ok () s.counted := operate_works works .flush
  have forks : fork.run s.counted = .ok () s.counted.forked := by
    rw [fork_run, show s.counted.refusal s.counted.forks = none from granted]
  rw [runChild, leaves_bind_of_ok flushes, leaves_bind_of_ok forks,
    leaves_bind_of_ok (startChild_run programs s.counted.forked command background)] at leaves
  cases background with
  | true =>
    rw [childSignals, if_pos rfl, SignalState.afterAll_map_raise]
    exact ((sameSignals_record _ _).holds_of_leaves rfl leaves).trans
      (Machine.signals_advance (departed programs s command true).machine 1)
  | false =>
    generalize hawait : Machine.await
      { (departed programs s command false).machine with
        signals := s.machine.signals.block } s.machine.children.next = ran
    obtain ⟨answer, between⟩ := ran
    have waits := waitForeground_run (departed programs s.counted.forked command false) hawait
    have ends : t.machine.signals = between.signals.unblock := by
      simp only [Bool.false_eq_true, if_false] at leaves
      rcases leaves with ⟨x, hrun⟩ | ⟨e, hrun⟩
      · cases answer <;> cases waits.symm.trans hrun
        rfl
      · cases answer <;> cases waits.symm.trans hrun
        rfl
    have heard := Machine.signals_await { (departed programs s command false).machine with
      signals := s.machine.signals.block } s.machine.children.next
    rw [hawait] at heard
    have held : s.machine.signals.afterAll (s.childSignals programs command false) =
        between.signals.unblock := by
      rw [childSignals, if_neg Bool.false_ne_true, SignalState.afterAll_append, heard,
        ← SignalState.afterAll_map_raise]
      rfl
    rw [ends, held]

private theorem signals_execute (works : s.writer.Works) {command : Command}
    (leaves : Leaves (execute programs command) s t) :
    t.machine.signals = s.machine.signals.afterAll (s.commandSignals programs command) := by
  rw [execute, leaves_get_bind] at leaves
  by_cases words : command.argv = []
  · rw [if_pos words] at leaves
    rw [eq_of_leaves_ok rfl leaves, commandSignals, if_neg (fun h => h.1 words)]
    rfl
  · rw [if_neg words] at leaves
    cases name : Builtin.ofName? command.name with
    | some builtin =>
      rw [name] at leaves
      have same := (sameSignals_builtin command.args builtin).holds_of_leaves rfl leaves
      rw [same, commandSignals, if_neg (fun h => by simp [name] at h)]
      rfl
    | none =>
      rw [name] at leaves
      dsimp only at leaves
      rw [runExternal, leaves_get_bind] at leaves
      by_cases noNul : hasNul command.argv = true
      · rw [if_pos noNul] at leaves
        have same := (coupled_throw _ : Coupled (Both fun t => t.machine.signals =
          s.machine.signals) _ _).holds_of_leaves rfl leaves
        rw [same, commandSignals, if_neg (fun h => by simp [noNul] at h)]
        rfl
      · rw [if_neg noNul] at leaves
        cases granted : s.refusal s.forks with
        | some fault =>
          rw [signals_refused works granted leaves, commandSignals,
            if_neg (fun h => by simp [granted] at h)]
          rfl
        | none =>
          rw [commandSignals, if_pos ⟨words, name, by simpa using noNul, granted⟩]
          exact signals_runChild works granted leaves

private theorem signals_runLine (works : s.writer.Works) {line : String}
    (leaves : Leaves (runLine programs line) s t) :
    t.machine.signals = s.machine.signals.afterAll (s.stepSignals programs (.line line)) := by
  have complains (message : String) {u t : Session} (leaves : Leaves (complain message) u t) :
      t.machine.signals = u.machine.signals :=
    (sameSignals_speech.complain message).holds_of_leaves rfl leaves
  cases parses : parse line s.pid with
  | error e =>
    rw [runLine, leaves_get_bind] at leaves
    simp only [parses] at leaves
    simp only [stepSignals, parses]
    exact complains _ leaves
  | ok read =>
    cases read with
    | none =>
      rw [runLine, leaves_get_bind] at leaves
      simp only [parses] at leaves
      simp only [stepSignals, parses]
      rw [eq_of_leaves_ok rfl leaves]
      rfl
    | some command =>
      simp only [stepSignals, parses]
      obtain ⟨u, ran⟩ := exists_leaves (execute programs command) s
      rw [← signals_execute works ran]
      rcases ran with ⟨status, ran⟩ | ⟨e, ran⟩
      · have runs : (runLine programs line).run s = .ok () (u.remembering status) := by
          rw [runLine_run parses, executeOrComplain_ok ran]
        rw [eq_of_leaves_ok runs leaves]
        rfl
      · -- The writer works, so the command has failed for another reason, which is told.
        obtain ⟨works, other⟩ : u.writer.Works ∧ ∀ text, e ≠ .output text := by
          have mild : Mild ((execute programs command).run s) := isMild_execute command s works
          rw [ran] at mild
          cases mild with
          | error _ works other => exact ⟨works, other⟩
        rcases complain_run e.message u with ⟨v, complained, -⟩ | ⟨_, _, -, told⟩
        · have runs : (runLine programs line).run s = .ok () (v.remembering .failure) := by
            rw [runLine_run parses, executeOrComplain_error ran other, EStateM.run_bind, complained]
            rfl
          have same : v.machine.signals = u.machine.signals := complains _ (.inl ⟨_, complained⟩)
          rw [eq_of_leaves_ok runs leaves, ← same]
          rfl
        · cases (told.of_works works).1

/-- The signals of the shell after a plain step are what was done about them in the step. -/
theorem signals_after (programs : Programs) (works : s.writer.Works) {step : SessionStep}
    (plain : step.IsPlain) :
    (s.after programs step).machine.signals =
      s.machine.signals.afterAll (s.stepSignals programs step) := by
  have leaves := leaves_outcome (perform programs step) s
  cases step with
  | line text => exact signals_runLine works leaves
  | lines texts => exact plain.elim
  | report => exact sameSignals_report.holds_of_leaves rfl leaves
  | sync => exact sameSignals_sync.holds_of_leaves rfl leaves
  | toggle => rfl
  | signal signal => rfl
  | signalChild pid signal => rfl
  | pass time =>
    rw [stepSignals, SignalState.afterAll_map_raise]
    exact Machine.signals_advance s.machine time
  | writer fault => exact plain.elim

/-- No step sets the mode that is asked for. -/
theorem set_notMem_signalSteps (mode : Mode) (s : Session) (steps : List SessionStep) :
    .set mode ∉ s.signalSteps programs steps := by
  have raises (heard : List TerminalSignal) : SignalStep.set mode ∉ heard.map .raise := by simp
  induction steps generalizing s with
  | nil => simp [signalSteps]
  | cons step rest ih =>
    rw [signalSteps, List.mem_append, not_or]
    refine ⟨?_, ih _⟩
    cases step with
    | line text =>
      unfold stepSignals commandSignals childSignals
      dsimp only
      split
      · split
        · split
          · exact raises _
          · simp
        · simp
      · simp
    | pass time => exact raises _
    | _ => simp [stepSignals]

end Session

end JobShell
