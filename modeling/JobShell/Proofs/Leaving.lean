import JobShell.Proofs.Accounts
import JobShell.Proofs.Expanding
import JobShell.Proofs.Records
import Mathlib.Data.List.Count

/-!
How a session comes to its end. The line `exit` asks every job on record to terminate, once, and
does nothing else but forget them. Both loops over lines end with an `exit`, and when they do every
child that is still held was asked to terminate.
-/

namespace JobShell

def Child.receiveTimes (child : Child) (now : Nat) (signal : Signal) (count : Nat) : Child :=
  (fun child => child.receive now signal)^[count] child

namespace Children

variable {c : Children}

private theorem now_signal (c : Children) (pid : Pid) (signal : Signal) :
    (c.signal pid signal).now = c.now := rfl

private theorem foldl_signal_eq (pids : List Pid) (signal : Signal) (c : Children) :
    pids.foldl (fun c pid => c.signal pid signal) c = { c with
      all := c.all.map fun child => child.receiveTimes c.now signal (pids.count child.pid) } := by
  induction pids generalizing c with
  | nil => simp [Child.receiveTimes]
  | cons pid rest ih =>
    have one (child : Child) :
        (if child.pid = pid then child.receive c.now signal else child).receiveTimes c.now signal
            (rest.count (if child.pid = pid then child.receive c.now signal else child).pid) =
          child.receiveTimes c.now signal ((pid :: rest).count child.pid) := by
      by_cases h : child.pid = pid
      · have same : (child.receive c.now signal).pid = child.pid :=
          (child.receive_lives c.now signal).pid
        rw [if_pos h, same, ← h, List.count_cons_self]
        rfl
      · rw [if_neg h, List.count_cons_of_ne (Ne.symm h)]
    rw [List.foldl_cons, ih, now_signal]
    simp only [Children.signal, update, List.map_map, Function.comp_def, one]

end Children

namespace Session

/-- How often the shell has asked a process to terminate. -/
def asked (s : Session) (pid : Pid) : Nat :=
  s.history.count (.signaled pid .terminate)

/-- Every job on record was asked to terminate, in order, and forgotten. Nobody was waited for,
nothing was written, and nothing else has changed. -/
structure Dismisses (s t : Session) : Prop where
  shell : t.shell = { s.shell with jobs := [], shouldExit := true }
  history : t.history = s.history ++ s.shell.jobs.map fun job => .signaled job.pid .terminate
  children : t.machine.children = { s.machine.children with
    all := s.machine.children.all.map fun child => child.receiveTimes s.machine.children.now
      .terminate ((s.shell.jobs.map (·.pid)).count child.pid) }
  held : s.machine.children.Live none t.machine.children
  machine : t.machine = { s.machine with children := t.machine.children }
  writer : t.writer = s.writer
  ahead : t.ahead = s.ahead

/-- The session is over: no job is on record, and every child that is still held was asked to
terminate. -/
structure Dismissed (s : Session) : Prop where
  shouldExit : s.shell.shouldExit = true
  jobs : s.shell.jobs = []
  asked : ∀ child ∈ s.machine.children.all, child.state.isHeld = true →
    .signaled child.pid .terminate ∈ s.history

variable {programs : Programs} {s t : Session} {line : String}

theorem exists_of_bind_ok {α β : Type} {action : Action α} {f : α → Action β} {y : β}
    (h : (action >>= f).run s = .ok y t) :
    ∃ x u, action.run s = .ok x u ∧ (f x).run u = .ok y t := by
  rw [EStateM.run_bind] at h
  split at h
  · next x u hrun => exact ⟨x, u, hrun, h⟩
  · cases h

theorem run_get_bind {α : Type} (f : Session → Action α) (s : Session) :
    ((get : Action Session) >>= f).run s = (f s).run s := rfl

private theorem exited_dismisses (s : Session) : s.Dismisses s.exited where
  shell := rfl
  history := rfl
  children := by
    have folded := Children.foldl_signal_eq (s.shell.jobs.map (·.pid)) .terminate s.machine.children
    rw [List.foldl_map] at folded
    exact folded
  held := foldl_signal_live s.shell.jobs s.machine.children
  machine := rfl
  writer := rfl
  ahead := rfl

private theorem Dismisses.asked_eq (h : s.Dismisses t) (pid : Pid) :
    t.asked pid = s.asked pid + (s.shell.jobs.map (·.pid)).count pid := by
  have event : (s.shell.jobs.map fun job => Event.signaled job.pid .terminate).count
      (.signaled pid .terminate) = (s.shell.jobs.map (·.pid)).count pid := by
    have injective : Function.Injective fun pid => Event.signaled pid .terminate := by
      intro first second he
      exact (Event.signaled.inj he).1
    rw [← List.count_map_of_injective _ _ injective, List.map_map]
    rfl
  rw [asked, h.history, List.count_append, event, asked]

/-- A line that runs `exit` always goes well. -/
theorem exitLine_run (programs : Programs) (exit : s.ExitLine line) :
    (runLine programs line).run s = .ok () s.exited := by
  obtain ⟨command, parses, isExit⟩ := exit
  have executes : (execute programs command).run s = .ok s.shell.status s.exited := by
    simp only [execute, EStateM.run_bind, EStateM.run_get, isExit.words, isExit.name, if_false]
    exact exit_run s
  rw [runLine_run parses, executeOrComplain_ok executes]
  rfl

/-- The line that both loops run at the end. -/
theorem exitLine_exit (s : Session) : s.ExitLine "exit" := by
  have plain : expandPid s.pid "exit" = "exit" :=
    expandPid_eq_self _ (not_hasDollars_of_notMem (by decide))
  refine ⟨{ argv := ["exit"], text := "exit" }, ?_, by decide, by decide⟩
  have trimmed : String.ofList (Text.trimEnd "exit".toList) = "exit" := by decide
  simp only [parse, trimmed, plain]
  decide

/-- If the jobs on record account for all children, `exit` dismisses them all. -/
theorem Accounted.exited_dismissed (hs : s.Accounted) (going : s.shell.shouldExit = false) :
    s.exited.Dismissed where
  shouldExit := rfl
  jobs := rfl
  asked child hm held := by
    obtain ⟨before, hb, lives⟩ := (exited_dismisses s).held.before hm
    obtain ⟨job, hj, hpid⟩ := hs.listed going before.pid before.state (hs.numbered.state?_eq hb)
      (lives.held.symm.trans held)
    rw [(exited_dismisses s).history, lives.pid, ← hpid]
    exact List.mem_append_right _ (List.mem_map_of_mem hj)

/-! The loops. -/

/-- The session goes on, and its jobs account for its children. -/
structure Open (s : Session) : Prop extends s.Accounted where
  going : s.shell.shouldExit = false

theorem Open.spares (hs : s.Open) (h : s.Spares t) : t.Open where
  toAccounted := hs.toAccounted.spares h
  going := h.shouldExit.trans hs.going

/-- A step that goes well and runs no `exit` leaves the session open. -/
theorem Open.after_step (programs : Programs) (step : SessionStep) (hs : s.Open)
    (single : step.IsSingle) (other : ∀ line, step = .line line → ¬ s.ExitLine line)
    (h : (perform programs step).run s = .ok () t) : t.Open := by
  have after_eq : s.after programs step = t := by rw [after, outcome, h]
  have touches := after_touches programs single hs.toTracked
  rw [after_eq] at touches
  exact ⟨touches.accounted hs.toAccounted, (touches.shouldExit_eq other).trans hs.going⟩

theorem Open.after_report (hs : s.Open) (h : reportFinishedJobs.run s = .ok () t) : t.Open :=
  hs.after_step (fun _ => .atOnce (.exited 0)) .report trivial (by simp) h

/-- A line ends the session with all children dismissed, or leaves it open. -/
theorem Open.after_line (hs : s.Open) (h : (runLine programs line).run s = .ok () t) :
    t.Dismissed ∨ t.Open := by
  by_cases exit : s.ExitLine line
  · obtain rfl := (EStateM.Result.ok.inj ((exitLine_run programs exit).symm.trans h)).2
    exact .inl (hs.exited_dismissed hs.going)
  · exact .inr (hs.after_step programs (.line line) trivial
      (fun _ he => SessionStep.line.inj he ▸ exit) h)

private theorem Open.after_exit (hs : s.Open) (h : (runLine programs "exit").run s = .ok () t) :
    t.Dismissed := by
  obtain rfl := (EStateM.Result.ok.inj ((exitLine_run programs s.exitLine_exit).symm.trans h)).2
  exact hs.exited_dismissed hs.going

/-- The lines end the session. -/
theorem runLines_dismissed (lines : List String) (hs : s.Open)
    (h : (runLines programs lines).run s = .ok () t) : t.Dismissed := by
  induction lines generalizing s with
  | nil => exact hs.after_exit h
  | cons line rest ih =>
    obtain ⟨_, reported, reports, h⟩ := exists_of_bind_ok h
    obtain ⟨_, ran, runs, h⟩ := exists_of_bind_ok h
    rw [run_get_bind] at h
    rcases (hs.after_report reports).after_line runs with dismissed | going
    · rw [if_pos dismissed.shouldExit] at h
      obtain rfl := (EStateM.Result.ok.inj h).2
      exact dismissed
    · rw [if_neg (by simp [going.going])] at h
      exact ih going h

private theorem operate_spares {operation : WriterOperation}
    (h : (operate operation).run s = .ok () t) : s.Spares t := by
  simp only [operate, EStateM.run_bind, EStateM.run_get, EStateM.run_set] at h
  split at h
  · cases h
  · obtain rfl := (EStateM.Result.ok.inj h).2
    exact .of_eq rfl rfl rfl rfl

/-- A prompt goes to the writer only. -/
theorem showPrompt_spares {prompt : Option String} (h : (showPrompt prompt).run s = .ok () t) :
    s.Spares t := by
  cases prompt with
  | none =>
    obtain rfl := (EStateM.Result.ok.inj h).2
    exact .refl s
  | some prompt =>
    obtain ⟨_, written, writes, flushes⟩ := exists_of_bind_ok h
    obtain ⟨_, counted, counts, keeps⟩ := exists_of_bind_ok writes
    obtain rfl := (EStateM.Result.ok.inj keeps).2
    refine .trans (.trans (operate_spares counts) ?_) (operate_spares flushes)
    exact .of_eq rfl rfl rfl rfl

/-- To take a line changes nothing but what is read ahead and the files. -/
theorem takeLine_rest {fuel : Nat} {sofar : Bytes} {taken : Option Bytes}
    (h : (takeLine fuel sofar).run s = .ok taken t) :
    t = { s with ahead := t.ahead, machine.store := t.machine.store } := by
  induction fuel generalizing s sofar with
  | zero =>
    obtain ⟨-, rfl⟩ := EStateM.Result.ok.inj h
    rfl
  | succ fuel ih =>
    simp only [takeLine, EStateM.run_bind, EStateM.run_get] at h
    split at h
    · split at h
      · cases h
      · simp only [EStateM.run_bind, EStateM.run_set] at h
        split at h
        · obtain ⟨-, rfl⟩ := EStateM.Result.ok.inj h
          rfl
        · rw [ih h]
    · simp only [EStateM.run_bind, EStateM.run_set] at h
      split at h
      · obtain ⟨-, rfl⟩ := EStateM.Result.ok.inj h
        rfl
      · rw [ih h]

/-- What is done at the prompt up to the line that is read there. -/
def nextLine (prompt : Option String) (fuel : Nat) : Action (Option Bytes) := do
  prepareTurn
  showPrompt prompt
  takeLine fuel []

theorem Open.after_nextLine {prompt : Option String} {fuel : Nat} {taken : Option Bytes}
    (hs : s.Open) (h : (nextLine prompt fuel).run s = .ok taken t) : t.Open := by
  obtain ⟨_, prepared, prepares, h⟩ := exists_of_bind_ok h
  obtain ⟨_, reported, reports, syncs⟩ := exists_of_bind_ok prepares
  obtain ⟨_, prompted, prompts, takes⟩ := exists_of_bind_ok h
  have open_prepared := (hs.after_report reports).after_step (fun _ => .atOnce (.exited 0)) .sync
    trivial (by simp) syncs
  rw [takeLine_rest takes]
  exact (open_prepared.spares (showPrompt_spares prompts)).spares (.of_eq rfl rfl rfl rfl)

/-- One turn of the loop that does not find the input at fault: what it read, and what it did then. -/
theorem promptLoop_turn {prompt : Option String} {fuel lines : Nat}
    (going : s.shell.shouldExit = false)
    (h : (promptLoop.go programs prompt fuel (lines + 1)).run s = .ok .finished t) :
    ∃ bytes read, (nextLine prompt fuel).run s = .ok (some bytes) read ∧
      (bytes = [] ∧ (runLine programs "exit").run read = .ok () t ∨
        ∃ text ran, bytes ≠ [] ∧ Text.readTyped bytes = .line text ∧
          (runLine programs text).run read = .ok () ran ∧
          (promptLoop.go programs prompt fuel lines).run ran = .ok .finished t) := by
  rw [promptLoop.go, run_get_bind, if_neg (by simp [going])] at h
  obtain ⟨_, prepared, prepares, h⟩ := exists_of_bind_ok h
  obtain ⟨_, prompted, prompts, h⟩ := exists_of_bind_ok h
  obtain ⟨taken, read, takes, h⟩ := exists_of_bind_ok h
  cases taken with
  | none => cases (EStateM.Result.ok.inj h).1
  | some bytes =>
    refine ⟨bytes, read, by simp only [nextLine, EStateM.run_bind, prepares, prompts, takes], ?_⟩
    simp only at h
    split at h
    · next blank =>
      obtain ⟨_, ended, exits, h⟩ := exists_of_bind_ok h
      obtain rfl := (EStateM.Result.ok.inj h).2
      exact .inl ⟨blank, exits⟩
    · next more =>
      split at h
      · cases h
      · cases (EStateM.Result.ok.inj h).1
      · next text typed =>
        obtain ⟨_, ran, runs, h⟩ := exists_of_bind_ok h
        exact .inr ⟨text, ran, more, typed, runs, h⟩

theorem promptLoop_done {prompt : Option String} {fuel lines : Nat}
    (exits : s.shell.shouldExit = true)
    (h : (promptLoop.go programs prompt fuel lines).run s = .ok .finished t) : t = s := by
  cases lines with
  | zero => cases (EStateM.Result.ok.inj h).1
  | succ lines =>
    rw [promptLoop.go, run_get_bind, if_pos exits] at h
    exact (EStateM.Result.ok.inj h).2.symm

/-- What is read ends the session, if it ends as it should. -/
theorem promptLoop_dismissed (prompt : Option String) (fuel : Nat) (hs : s.Open)
    (h : (promptLoop programs prompt fuel).run s = .ok .finished t) : t.Dismissed := by
  suffices turns : ∀ lines s, s.Open ∨ s.Dismissed →
      (promptLoop.go programs prompt fuel lines).run s = .ok .finished t → t.Dismissed from
    turns fuel s (.inl hs) h
  intro lines
  induction lines with
  | zero =>
    intro s _ h
    cases (EStateM.Result.ok.inj h).1
  | succ lines ih =>
    intro s hs h
    rcases hs with hs | dismissed
    · obtain ⟨_, read, reads, turn⟩ := promptLoop_turn hs.going h
      have open_read := hs.after_nextLine reads
      obtain ⟨_, exits⟩ | ⟨text, ran, _, _, runs, goes⟩ := turn
      · exact open_read.after_exit exits
      · exact ih ran (open_read.after_line runs).symm goes
    · rw [promptLoop_done dismissed.shouldExit h]
      exact dismissed

private theorem Accounted.count_jobs (hs : s.Accounted) (pid : Pid) :
    (s.shell.jobs.map (·.pid)).count pid = if pid ∈ s.shell.jobs.map (·.pid) then 1 else 0 := by
  split
  · next on => exact List.count_eq_one_of_mem hs.distinct on
  · next off => exact List.count_eq_zero_of_not_mem off

/-- A line that runs `exit` asks every job on record to terminate, whatever became of the others,
and does nothing else but end the session with no job on record. No process is asked twice, since no
two jobs have one number. When given lines or the lines of the input have ended a session, every
child that is still held was asked to terminate. -/
theorem every_job_dismissed (programs : Programs) (fresh : s.Fresh) (steps : List SessionStep) :
    (∀ (u : Session) (line : String), u.ExitLine line →
      ∃ t, outcome (runLine programs line) u = (none, t) ∧ u.Dismisses t) ∧
    let s' := s.afterAll programs steps
    (∀ line t, s'.ExitLine line → outcome (runLine programs line) s' = (none, t) →
      ∀ pid, t.asked pid = s'.asked pid + if pid ∈ s'.shell.jobs.map (·.pid) then 1 else 0) ∧
    (s'.shell.shouldExit = false → ∀ lines t,
      outcome (runLines programs lines) s' = (none, t) → t.Dismissed) ∧
    (s'.shell.shouldExit = false → ∀ prompt fuel t,
      (promptLoop programs prompt fuel).run s' = .ok .finished t → t.Dismissed) := by
  have exits (u : Session) (line : String) (exit : u.ExitLine line) :
      outcome (runLine programs line) u = (none, u.exited) := by
    rw [outcome, exitLine_run programs exit]
  refine ⟨fun u line exit => ⟨u.exited, exits u line exit, u.exited_dismisses⟩, ?_⟩
  intro s'
  have accounted : s'.Accounted := afterAll_accounted programs fresh steps
  refine ⟨fun line t exit ends pid => ?_, fun going lines t ends => ?_,
    fun going prompt fuel t ends => promptLoop_dismissed prompt fuel ⟨accounted, going⟩ ends⟩
  · obtain rfl := (Prod.mk.inj ((exits s' line exit).symm.trans ends)).2
    rw [s'.exited_dismisses.asked_eq, accounted.count_jobs]
  · rw [outcome] at ends
    split at ends
    · next hrun =>
      obtain rfl := (Prod.mk.inj ends).2
      exact runLines_dismissed lines ⟨accounted, going⟩ hrun
    · cases ends

/-- Two background children, of which one was reported and one has ended since, and then the end of
the lines: only the one on record is asked to terminate. -/
theorem every_job_dismissed_unopened :
    let programs : Programs := fun _ => .atOnce (.exited 0)
    let steps : List SessionStep := [.line "x < \x00 &", .report, .line "x < \x00 &"]
    let s := bare.afterAll programs steps
    s.shell.shouldExit = false ∧ s.shell.jobs = [⟨4, "x < \x00 &"⟩] ∧
      let t := (outcome (runLines programs []) s).2
      (outcome (runLines programs []) s).1 = none ∧ t.Dismissed ∧
        t.machine.children.all.map (·.state.isHeld) = [false, true] ∧
        t.asked 3 = 0 ∧ t.asked 4 = 1 := by
  intro programs steps s
  have going : s.shell.shouldExit = false := by decide +kernel
  have ends : (outcome (runLines programs []) s).1 = none := by decide +kernel
  have dismissed :=
    (every_job_dismissed programs bare_fresh steps).2.2.1 going [] _ (Prod.ext ends rfl)
  exact ⟨going, by decide +kernel, ends, dismissed, by decide +kernel, by decide +kernel,
    by decide +kernel⟩

end Session

end JobShell
