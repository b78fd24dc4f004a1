import JobShell.Proofs.Tracking

/-!
The jobs on record account for the children of the shell. Up to the first `exit`, every child that
the system holds is on record once, with the text it was started from, and nothing else is on record
but children for which the wait failed.
-/

namespace JobShell

namespace Session

/-- The jobs on record account for the children. -/
structure Accounted (s : Session) : Prop extends s.Tracked where
  unused : ∀ pid, s.machine.children.next ≤ pid → s.texts pid = []
  recent : s.shell.jobs.Pairwise fun job older => older.pid < job.pid
  started : ∀ job ∈ s.shell.jobs, s.texts job.pid = [job.command]
  listed : s.shell.shouldExit = false → ∀ pid state, s.machine.children.state? pid = some state →
    state.isHeld = true → ∃ job ∈ s.shell.jobs, job.pid = pid

variable {s s' : Session} {command : Command} {child : Child} {text : String}

/-- No two jobs on record have one number. -/
theorem Accounted.distinct (hs : s.Accounted) : (s.shell.jobs.map (·.pid)).Nodup :=
  List.pairwise_map.mpr (hs.recent.imp fun hlt => (Int.ne_of_lt hlt).symm)

theorem Accounted.spares (hs : s.Accounted) (h : s.Spares s') : s'.Accounted where
  toTracked := hs.toTracked.spares h
  unused pid hp := by
    rw [h.texts]
    exact hs.unused pid (h.children.next ▸ hp)
  recent := h.jobs ▸ hs.recent
  started job hj := by
    rw [h.texts]
    exact hs.started job (h.jobs ▸ hj)
  listed hexit pid state' hstate' hheld := by
    obtain ⟨state, hstate, hlives⟩ := h.children.state?_before hs.numbered hstate'
    rw [h.jobs]
    exact hs.listed (h.shouldExit ▸ hexit) pid state hstate (hlives.held ▸ hheld)

private theorem Adds.job_lt (h : s.Adds text child s') (hs : s.Accounted) {job : Job}
    (hj : job ∈ s.shell.jobs) : job.pid < child.pid :=
  h.children.number ▸ hs.lt_next hj

private theorem Adds.unused (h : s.Adds text child s') (hs : s.Accounted) {pid : Pid}
    (hp : s'.machine.children.next ≤ pid) : s'.texts pid = [] := by
  rw [h.children.next, ← h.children.number] at hp
  have hlt : child.pid < pid := Int.lt_of_lt_of_le (Int.lt_succ _) hp
  rw [h.texts, if_neg (Int.ne_of_lt hlt), List.append_nil]
  exact hs.unused pid (h.children.number ▸ Int.le_of_lt hlt)

private theorem Adds.started (h : s.Adds text child s') (hs : s.Accounted) {job : Job}
    (hj : job ∈ s.shell.jobs) : s'.texts job.pid = [job.command] := by
  rw [h.texts, if_neg (Int.ne_of_lt (h.job_lt hs hj)).symm, List.append_nil]
  exact hs.started job hj

private theorem Adds.accounted_of_gone (h : s.Adds text child s') (hs : s.Accounted)
    (tracked : s'.Tracked) (jobs : s'.shell.jobs = s.shell.jobs)
    (gone : child.state.isHeld = false) : s'.Accounted where
  toTracked := tracked
  unused pid hp := h.unused hs hp
  recent := jobs ▸ hs.recent
  started job hj := h.started hs (jobs ▸ hj)
  listed hexit pid state' hstate' hheld := by
    rw [jobs]
    rcases h.children.state?_before hs.numbered hstate' with ⟨_, rfl⟩ | ⟨state, hstate, hlives⟩
    · rw [gone] at hheld
      cases hheld
    · exact hs.listed (h.shouldExit ▸ hexit) pid state hstate (hlives.held ▸ hheld)

private theorem Adds.accounted_of_held (h : s.Adds text child s') (hs : s.Accounted)
    (tracked : s'.Tracked) (jobs : s'.shell.jobs = ⟨child.pid, text⟩ :: s.shell.jobs) :
    s'.Accounted where
  toTracked := tracked
  unused pid hp := h.unused hs hp
  recent := by
    rw [jobs]
    exact List.pairwise_cons.mpr ⟨fun job hj => h.job_lt hs hj, hs.recent⟩
  started job hj := by
    rcases List.mem_cons.mp (jobs ▸ hj) with rfl | hj
    · have hnew := hs.unused child.pid (h.children.number ▸ Int.le_refl _)
      exact (h.texts child.pid).trans (by simp [hnew])
    · exact h.started hs hj
  listed hexit pid state' hstate' hheld := by
    rw [jobs]
    rcases h.children.state?_before hs.numbered hstate' with ⟨rfl, _⟩ | ⟨state, hstate, hlives⟩
    · exact ⟨_, List.mem_cons_self, rfl⟩
    · obtain ⟨job, hj, hp⟩ :=
        hs.listed (h.shouldExit ▸ hexit) pid state hstate (hlives.held ▸ hheld)
      exact ⟨job, List.mem_cons_of_mem _ hj, hp⟩

theorem Affects.accounted (h : s.Affects command s') (hs : s.Accounted) : s'.Accounted := by
  have tracked := h.tracked hs.toTracked
  cases h with
  | spares notExit spares => exact hs.spares spares
  | exits isExit children texts jobs shouldExit =>
    exact
      { toTracked := tracked
        unused := fun pid hp => (texts pid).trans (hs.unused pid (children.next ▸ hp))
        recent := by simp [jobs]
        started := by simp [jobs]
        listed := by simp [shouldExit] }
  | waits adds external foreground jobs gone =>
    exact adds.accounted_of_gone hs tracked jobs gone
  | lists adds launches jobs held => exact adds.accounted_of_held hs tracked jobs

private theorem reaping_accounted (hs : s.Accounted) : s.reaping.Accounted where
  toTracked := hs.toTracked.reaping
  unused pid hp := hs.unused pid ((Registry.reap_state hs.numbered hs.pos).2.1 ▸ hp)
  recent := hs.recent.sublist hs.reaping_sublist
  started job hj := hs.started job (hs.reaping_sublist.subset hj)
  listed hexit pid state hpid hheld := by
    rw [hs.reaping_state?] at hpid
    split at hpid
    · next hm =>
      obtain ⟨job, hj, rfl⟩ := List.mem_map.mp hm
      obtain ⟨before, hb, rfl⟩ := Option.map_eq_some_iff.mp hpid
      have going : before.ending? = none := by
        cases before <;> simp_all [ChildState.released, ChildState.isHeld, ChildState.ending?]
      exact ⟨job, Registry.mem_reap_kept hs.numbered hs.pos hj hb going, rfl⟩
    · next hm =>
      obtain ⟨job, hj, rfl⟩ := hs.listed hexit pid state hpid hheld
      exact absurd (List.mem_map_of_mem hj) hm

/-- What a single step preserves. -/
theorem Touches.accounted {step : SessionStep} (h : s.Touches step s') (hs : s.Accounted) :
    s'.Accounted := by
  cases h with
  | spares notReport notExit spares => exact hs.spares spares
  | runs is parses affects => exact affects.accounted hs
  | reaps is spares => exact (reaping_accounted hs).spares spares

theorem Fresh.accounted (fresh : s.Fresh) : s.Accounted where
  toTracked := fresh.tracked
  unused pid _ := by simp [texts, fresh.history]
  recent := by simp [fresh.jobs]
  started := by simp [fresh.jobs]
  listed _ pid state hs := by simp [Children.state?, Children.find?, fresh.children] at hs

/-- If the jobs account for the children, they do so whatever happens. -/
theorem Accounted.afterAll (programs : Programs) (hs : s.Accounted) (steps : List SessionStep) :
    (s.afterAll programs steps).Accounted :=
  afterAll_invariant programs (fun _ hs => hs.numbered)
    (fun _ _ _ _ stepped hs => stepped.touches.accounted hs) hs steps

/-- The jobs account for the children in every state of a session. -/
theorem afterAll_accounted (programs : Programs) (fresh : s.Fresh) (steps : List SessionStep) :
    (s.afterAll programs steps).Accounted :=
  fresh.accounted.afterAll programs steps

/-- Only a line that runs `exit` makes the shell exit. -/
theorem Touches.shouldExit_eq {step : SessionStep} (h : s.Touches step s')
    (other : ∀ line, step = .line line → ¬ s.ExitLine line) :
    s'.shell.shouldExit = s.shell.shouldExit := by
  cases h with
  | spares notReport notExit spares => exact spares.shouldExit
  | @runs line command is parses affects =>
    cases affects with
    | spares notExit spares => exact spares.shouldExit
    | exits isExit => exact absurd ⟨command, parses, isExit⟩ (other line is)
    | waits adds => exact adds.shouldExit
    | lists adds => exact adds.shouldExit
  | reaps is spares => exact spares.shouldExit

def afterCommand (programs : Programs) (s : Session) (command : Command) : Session :=
  match (execute programs command).run s with
  | .ok _ s' => s'
  | .error _ s' => s'

/-- A command whose child was waited for leaves nothing behind; a child that runs in the background
is on record, whatever else went wrong. -/
private theorem Affects.newcomer (h : s.Affects command s') (hn : s.machine.children.Numbered)
    (hm : child ∈ s'.machine.children.all) (newer : s.machine.children.next ≤ child.pid) :
    if command.background && s.shell.mode.allowsBackground then
      child.state.isHeld = true ∧ s'.shell.jobs = ⟨child.pid, command.text⟩ :: s.shell.jobs
    else child.state.isHeld = false ∧ s'.shell.jobs = s.shell.jobs := by
  have notOlder {old : Child} (ho : old ∈ s.machine.children.all)
      (hlives : old.Lives none child) : False :=
    absurd (hn.lt_next old ho) (Int.not_lt.mpr (hlives.pid ▸ newer))
  have notSpared (live : s.machine.children.Live none s'.machine.children) : False := by
    obtain ⟨old, ho, hlives⟩ := live.before hm
    exact notOlder ho hlives
  have isAdded {first : Child} (adds : s.Adds command.text first s') : child = first := by
    rcases adds.children.before hm with rfl | ⟨old, ho, hlives⟩
    · rfl
    · exact (notOlder ho hlives).elim
  cases h with
  | spares notExit spares => exact (notSpared spares.children).elim
  | exits isExit children => exact (notSpared children).elim
  | waits adds external foreground jobs gone =>
    obtain rfl := isAdded adds
    rw [foreground]
    exact ⟨gone, jobs⟩
  | lists adds launches jobs held =>
    obtain rfl := isAdded adds
    rw [launches.background]
    exact ⟨held, jobs⟩

/-- What running the command comes to. -/
theorem afterCommand_executed (programs : Programs) (command : Command)
    (hn : s.machine.children.Numbered) :
    ∃ result, s.Executed command result (s.afterCommand programs command) := by
  unfold afterCommand
  rcases execute_run programs command hn with ⟨status, s', hrun, executed⟩ | ⟨e, s', hrun, executed⟩
  · rw [hrun]
    exact ⟨_, executed⟩
  · rw [hrun]
    exact ⟨_, executed⟩

private theorem afterCommand_affects (programs : Programs) (command : Command)
    (hn : s.machine.children.Numbered) : s.Affects command (s.afterCommand programs command) := by
  obtain ⟨result, executed⟩ := afterCommand_executed programs command hn
  exact executed.affects

theorem Accounted.filter_jobs (hs : s.Accounted) {job : Job} (hj : job ∈ s.shell.jobs) :
    s.shell.jobs.filter (·.pid == job.pid) = [job] := by
  obtain ⟨before, after, hsplit⟩ := List.append_of_mem hj
  have hdistinct := hs.distinct
  rw [hsplit, List.map_append, List.map_cons] at hdistinct
  obtain ⟨-, hafter, hbefore⟩ := List.nodup_append.mp hdistinct
  have none {others : List Job} (h : ∀ other ∈ others, other.pid ≠ job.pid) :
      others.filter (·.pid == job.pid) = [] := by
    simpa using h
  rw [hsplit, List.filter_append, List.filter_cons_of_pos (by simp), none, none]
  · rfl
  · intro other ho he
    exact (List.nodup_cons.mp hafter).1 (he ▸ List.mem_map_of_mem ho)
  · intro other ho he
    exact hbefore _ (List.mem_map_of_mem ho) _ List.mem_cons_self he

/-- Up to the first `exit`, every child that the system holds for the shell is on record once, with
the text it was started from, and every job on record is such a child or one that a wait let go of
without telling how it ended. A child that a command waits for is not left behind, and one in the
background is on record, on every way out of the command. Only a line that runs `exit` can end this
time. -/
theorem no_child_lost (programs : Programs) (fresh : s.Fresh) (steps : List SessionStep) :
    let s' := s.afterAll programs steps
    (s'.shell.shouldExit = false → ∀ child ∈ s'.machine.children.all, child.state.isHeld = true →
      ∃ text, s'.texts child.pid = [text] ∧
        s'.shell.jobs.filter (·.pid == child.pid) = [⟨child.pid, text⟩]) ∧
    (∀ job ∈ s'.shell.jobs, ∃ child ∈ s'.machine.children.all,
      child.pid = job.pid ∧ s'.texts child.pid = [job.command] ∧
        (child.state.isHeld = true ∨ ∃ signal : Signal,
          Signal.lastNamed < signal.number ∧ child.state = .gone (.killed signal))) ∧
    (∀ command, ∀ child ∈ (s'.afterCommand programs command).machine.children.all,
      s'.machine.children.next ≤ child.pid →
      if command.background && s'.shell.mode.allowsBackground then
        child.state.isHeld = true ∧ (s'.afterCommand programs command).shell.jobs =
          ⟨child.pid, command.text⟩ :: s'.shell.jobs
      else
        child.state.isHeld = false ∧
          (s'.afterCommand programs command).shell.jobs = s'.shell.jobs) ∧
    ∀ step : SessionStep, step.IsSingle → (∀ line, step = .line line → ¬ s'.ExitLine line) →
      (s'.after programs step).shell.shouldExit = s'.shell.shouldExit := by
  intro s'
  have hs' : s'.Accounted := afterAll_accounted programs fresh steps
  refine ⟨fun hexit child hm hheld => ?_, fun job hj => ?_, fun command child hm newer => ?_,
    fun step single other => ?_⟩
  · obtain ⟨⟨pid, text⟩, hj, hp⟩ :=
      hs'.listed hexit child.pid child.state (hs'.numbered.state?_eq hm) hheld
    obtain rfl : pid = child.pid := hp
    exact ⟨text, hs'.started _ hj, hs'.filter_jobs hj⟩
  · obtain ⟨state, hstate, hlisted⟩ := hs'.known job hj
    obtain ⟨child, hm, hp, rfl⟩ := Children.exists_of_state?_eq_some hstate
    refine ⟨child, hm, hp, hp ▸ hs'.started job hj, ?_⟩
    cases hc : child.state with
    | gone ending =>
      rw [hc] at hlisted
      have unnamed : ending.isNamed = false := by simpa [ChildState.isListed] using hlisted
      obtain ⟨signal, rfl, hlt⟩ := Ending.isNamed_eq_false.mp unnamed
      exact .inr ⟨signal, hlt, rfl⟩
    | _ => exact .inl rfl
  · exact (afterCommand_affects programs command hs'.numbered).newcomer hs'.numbered hm newer
  · obtain ⟨error, t, hout, stepped⟩ := step_stepped programs single hs'.numbered
    rw [after, hout]
    exact stepped.touches.shouldExit_eq other

/-- A background child that could not open its input is held until it is reported. -/
theorem no_child_lost_unopened :
    let line := "x < \x00 &"
    let s' := bare.afterAll (fun _ => .atOnce (.exited 0)) [.line line]
    s'.shell.shouldExit = false ∧ s'.machine.children.all.map (·.state.isHeld) = [true] ∧
      ∀ child ∈ s'.machine.children.all, child.state.isHeld = true →
        ∃ text, s'.texts child.pid = [text] ∧
          s'.shell.jobs.filter (·.pid == child.pid) = [⟨child.pid, text⟩] :=
  ⟨by decide +kernel, by decide +kernel,
    (no_child_lost _ bare_fresh [.line "x < \x00 &"]).1 (by decide +kernel)⟩

end Session

end JobShell
