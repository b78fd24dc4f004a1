import JobShell.Proofs.Tracking

/-!
One job through a session. It comes on record when it is started and stays there until the first
report after its end, or an `exit`; once off record it never comes back, and the end of its child
stays what it is.
-/

namespace JobShell.Session

def Starts (s : Session) (step : SessionStep) (pid : Pid) : Prop :=
  ∃ line command, step = .line line ∧ parse line s.pid = .ok (some command) ∧
    s.Launches command ∧ pid = s.machine.children.next

variable {s s' : Session} {step : SessionStep} {pid : Pid} {ending : Ending}

private theorem Touches.onRecord_before (h : s.Touches step s') (hs : s.Tracked)
    (after : s'.OnRecord pid) : s.OnRecord pid ∨ s.Starts step pid := by
  obtain ⟨job, hj, rfl⟩ := after
  cases h with
  | spares notReport notExit spares => exact .inl ⟨job, spares.jobs ▸ hj, rfl⟩
  | @runs line command is parses affects =>
    cases affects with
    | spares notExit spares => exact .inl ⟨job, spares.jobs ▸ hj, rfl⟩
    | exits isExit children texts jobs => simp [jobs] at hj
    | waits adds external foreground jobs => exact .inl ⟨job, jobs ▸ hj, rfl⟩
    | lists adds launches jobs =>
      rcases List.mem_cons.mp (jobs ▸ hj) with rfl | hj
      · exact .inr ⟨line, command, is, parses, launches, adds.children.number⟩
      · exact .inl ⟨job, hj, rfl⟩
  | reaps is spares =>
    exact .inl ⟨job, hs.reaping_sublist.subset (spares.jobs ▸ hj), rfl⟩

theorem Touches.next_le (h : s.Touches step s') (hs : s.Tracked) :
    s.machine.children.next ≤ s'.machine.children.next := by
  have added {text : String} {child : Child} (adds : s.Adds text child s') :
      s.machine.children.next ≤ s'.machine.children.next := by
    rw [adds.children.next]
    exact Int.le_of_lt (Int.lt_succ _)
  cases h with
  | spares notReport notExit spares => exact spares.children.next ▸ Int.le_refl _
  | runs is parses affects =>
    cases affects with
    | spares notExit spares => exact spares.children.next ▸ Int.le_refl _
    | exits isExit children => exact children.next ▸ Int.le_refl _
    | waits adds => exact added adds
    | lists adds => exact added adds
  | reaps is spares =>
    have hnext := spares.children.next.trans (Registry.reap_state hs.numbered hs.pos).2.1
    exact hnext ▸ Int.le_refl _

/-- What can become of a child in a step: it lives on, and a report lets go of it before if it has
ended and is on record. -/
theorem Touches.state?_after (h : s.Touches step s') (hs : s.Tracked) {state : ChildState}
    (known : s.machine.children.state? pid = some state) :
    ∃ between state', (between = state ∨ step = .report ∧ between = state.released) ∧
      s'.machine.children.state? pid = some state' ∧ between.Lives state' := by
  have alive (h : ∃ state', s'.machine.children.state? pid = some state' ∧ state.Lives state') :
      ∃ between state', (between = state ∨ step = .report ∧ between = state.released) ∧
        s'.machine.children.state? pid = some state' ∧ between.Lives state' := by
    obtain ⟨state', later⟩ := h
    exact ⟨state, state', .inl rfl, later⟩
  cases h with
  | spares notReport notExit spares => exact alive (spares.children.state?_after hs.numbered known)
  | runs is parses affects =>
    cases affects with
    | spares notExit spares => exact alive (spares.children.state?_after hs.numbered known)
    | exits isExit children => exact alive (children.state?_after hs.numbered known)
    | waits adds => exact alive (adds.children.state?_after hs.numbered known)
    | lists adds => exact alive (adds.children.state?_after hs.numbered known)
  | reaps is spares =>
    have reaped := hs.reaping_state? pid
    rw [known] at reaped
    split at reaped
    · obtain ⟨state', later⟩ := spares.children.state?_after hs.reaping.numbered reaped
      exact ⟨state.released, state', .inr ⟨is, rfl⟩, later⟩
    · exact alive (spares.children.state?_after hs.reaping.numbered reaped)

/-- The end of a child stays what it is. -/
theorem Touches.ending?_eq (h : s.Touches step s') (hs : s.Tracked)
    (hend : s.ending? pid = some ending) : s'.ending? pid = some ending := by
  obtain ⟨state, hstate, hending⟩ := Option.bind_eq_some_iff.mp hend
  obtain ⟨between, state', hbetween, hstate', hlives⟩ := h.state?_after hs hstate
  have ended : between.ending? = some ending := by
    rcases hbetween with rfl | ⟨_, rfl⟩
    · exact hending
    · cases state <;> simp_all [ChildState.released, ChildState.ending?]
  refine Option.bind_eq_some_iff.mpr ⟨state', hstate', ?_⟩
  rwa [hlives.ending ending ended]

private theorem Touches.gone_after (h : s.Touches step s') (hs : s.Tracked)
    (gone : s.machine.children.state? pid = some (.gone ending)) :
    s'.machine.children.state? pid = some (.gone ending) := by
  obtain ⟨between, state', hbetween, hstate', hlives⟩ := h.state?_after hs gone
  obtain rfl : between = .gone ending := by
    rcases hbetween with rfl | ⟨_, rfl⟩ <;> rfl
  rwa [hlives.ending ending rfl] at hstate'

/-- A report lets go of the child of a job on record if the child has ended. -/
theorem Touches.gone_of_report (h : s.Touches .report s') (hs : s.Tracked) (on : s.OnRecord pid)
    (ended : s.machine.children.state? pid = some (.ended ending)) :
    s'.machine.children.state? pid = some (.gone ending) := by
  obtain ⟨job, hj, rfl⟩ := on
  cases h with
  | spares notReport => exact absurd rfl notReport
  | runs is => cases is
  | reaps is spares =>
    have reaped := hs.reaping_state? job.pid
    rw [if_pos (List.mem_map_of_mem hj), ended] at reaped
    obtain ⟨state', hstate', hlives⟩ := spares.children.state?_after hs.reaping.numbered reaped
    rwa [hlives.ending ending rfl] at hstate'

private theorem Touches.held_after (h : s.Touches step s') (hs : s.Tracked) {state : ChildState}
    (known : s.machine.children.state? pid = some state) (held : state.isHeld = true)
    (unended : step = .report → s.ending? pid = none) :
    ∃ state', s'.machine.children.state? pid = some state' ∧ state'.isHeld = true := by
  obtain ⟨between, state', hbetween, hstate', hlives⟩ := h.state?_after hs known
  refine ⟨state', hstate', hlives.held.trans ?_⟩
  rcases hbetween with rfl | ⟨report, rfl⟩
  · exact held
  · have going : state.ending? = none := by simpa [ending?, known] using unended report
    cases state <;> simp_all [ChildState.released, ChildState.ending?]

private theorem Touches.texts_eq (h : s.Touches step s') (old : pid < s.machine.children.next) :
    s'.texts pid = s.texts pid := by
  have added {text : String} {child : Child} (adds : s.Adds text child s') :
      s'.texts pid = s.texts pid := by
    have hne : child.pid ≠ pid := adds.children.number ▸ (Int.ne_of_lt old).symm
    rw [adds.texts, if_neg hne, List.append_nil]
  cases h with
  | spares notReport notExit spares => exact spares.texts pid
  | runs is parses affects =>
    cases affects with
    | spares notExit spares => exact spares.texts pid
    | exits isExit children texts => exact texts pid
    | waits adds => exact added adds
    | lists adds => exact added adds
  | reaps is spares => exact spares.texts pid

/-- A job stays on record through everything but `exit` and a report after its end. -/
theorem Touches.onRecord_after (h : s.Touches step s') (hs : s.Tracked) (before : s.OnRecord pid)
    (notExit : ∀ line, step = .line line → ¬ s.ExitLine line)
    (unended : step = .report → s.ending? pid = none) : s'.OnRecord pid := by
  obtain ⟨job, hj, rfl⟩ := before
  cases h with
  | spares notReport _ spares => exact ⟨job, spares.jobs.symm ▸ hj, rfl⟩
  | @runs line command is parses affects =>
    cases affects with
    | spares _ spares => exact ⟨job, spares.jobs.symm ▸ hj, rfl⟩
    | exits isExit => exact absurd ⟨command, parses, isExit⟩ (notExit line is)
    | waits adds external foreground jobs => exact ⟨job, jobs.symm ▸ hj, rfl⟩
    | lists adds launches jobs =>
      exact ⟨job, jobs.symm ▸ List.mem_cons_of_mem _ hj, rfl⟩
  | reaps is spares =>
    exact ⟨job, spares.jobs.symm ▸ hs.mem_reaping hj (unended is), rfl⟩

/-- A report takes a job off record if its child has ended in a way that a wait can tell. -/
theorem Touches.not_onRecord_of_report (h : s.Touches .report s') (hs : s.Tracked)
    (hend : s.ending? pid = some ending) (named : ending.isNamed = true) : ¬ s'.OnRecord pid := by
  rintro ⟨job, hj, rfl⟩
  cases h with
  | spares notReport => exact notReport rfl
  | runs is => cases is
  | reaps is spares =>
    exact hs.notMem_reaping hend named (spares.jobs ▸ hj)

/-- After `exit` no job is on record. -/
theorem Touches.not_onRecord_of_exit {line : String} (h : s.Touches (.line line) s')
    (exit : s.ExitLine line) : ¬ s'.OnRecord pid := by
  rintro ⟨job, hj, rfl⟩
  cases h with
  | spares notReport notExit => exact notExit line rfl exit
  | @runs _ command is parses affects =>
    obtain rfl := SessionStep.line.inj is
    obtain ⟨other, hparse, isExit⟩ := exit
    obtain rfl : command = other := by
      simpa using parses.symm.trans hparse
    cases affects with
    | spares notExit => exact notExit isExit
    | exits _ children texts jobs => simp [jobs] at hj
    | waits adds external => simpa [external.name] using isExit.name
    | lists adds launches => simpa [launches.external.name] using isExit.name
  | reaps is => cases is

/-! Over several steps. -/

variable {programs : Programs} {steps : List SessionStep}

theorem after_touches (programs : Programs) (single : step.IsSingle) (hs : s.Tracked) :
    s.Touches step (s.after programs step) := by
  obtain ⟨error, s', hout, stepped⟩ := step_stepped programs single hs.numbered
  rw [after, hout]
  exact stepped.touches

theorem next_le_afterAll (programs : Programs) (single : ∀ step ∈ steps, step.IsSingle)
    (hs : s.Tracked) :
    s.machine.children.next ≤ (s.afterAll programs steps).machine.children.next := by
  induction steps generalizing s with
  | nil => exact Int.le_refl _
  | cons step rest ih =>
    obtain ⟨hstep, hrest⟩ := List.forall_mem_cons.mp single
    have touches := after_touches programs hstep hs
    exact Int.le_trans (touches.next_le hs) (ih hrest (touches.tracked hs))

/-- The end of a child stays what it is. -/
theorem ending?_afterAll (programs : Programs) (single : ∀ step ∈ steps, step.IsSingle)
    (hs : s.Tracked) (hend : s.ending? pid = some ending) :
    (s.afterAll programs steps).ending? pid = some ending := by
  induction steps generalizing s with
  | nil => exact hend
  | cons step rest ih =>
    obtain ⟨hstep, hrest⟩ := List.forall_mem_cons.mp single
    have touches := after_touches programs hstep hs
    exact ih hrest (touches.tracked hs) (touches.ending?_eq hs hend)

/-- A child that was let go of is not heard of again. -/
theorem gone_afterAll (programs : Programs) (single : ∀ step ∈ steps, step.IsSingle)
    (hs : s.Tracked) (gone : s.machine.children.state? pid = some (.gone ending)) :
    (s.afterAll programs steps).machine.children.state? pid = some (.gone ending) := by
  induction steps generalizing s with
  | nil => exact gone
  | cons step rest ih =>
    obtain ⟨hstep, hrest⟩ := List.forall_mem_cons.mp single
    have touches := after_touches programs hstep hs
    exact ih hrest (touches.tracked hs) (touches.gone_after hs gone)

/-- A child is held through steps without a report after its end. -/
theorem held_afterAll_of_unended (programs : Programs) (single : ∀ step ∈ steps, step.IsSingle)
    (hs : s.Tracked) {state : ChildState} (known : s.machine.children.state? pid = some state)
    (held : state.isHeld = true)
    (unended : ∀ earlier later, steps = earlier ++ .report :: later →
      (s.afterAll programs earlier).ending? pid = none) :
    ∃ state', (s.afterAll programs steps).machine.children.state? pid = some state' ∧
      state'.isHeld = true := by
  induction steps generalizing s state with
  | nil => exact ⟨state, known, held⟩
  | cons step rest ih =>
    obtain ⟨hstep, hrest⟩ := List.forall_mem_cons.mp single
    have touches := after_touches programs hstep hs
    obtain ⟨state', known', held'⟩ := touches.held_after hs known held fun report =>
      unended [] rest (by rw [report]; rfl)
    refine ih hrest (touches.tracked hs) known' held' fun earlier later hsplit => ?_
    exact unended (step :: earlier) later (by rw [hsplit]; rfl)

theorem texts_afterAll (programs : Programs) (single : ∀ step ∈ steps, step.IsSingle)
    (hs : s.Tracked) (old : pid < s.machine.children.next) :
    (s.afterAll programs steps).texts pid = s.texts pid := by
  induction steps generalizing s with
  | nil => rfl
  | cons step rest ih =>
    obtain ⟨hstep, hrest⟩ := List.forall_mem_cons.mp single
    have touches := after_touches programs hstep hs
    rw [afterAll_cons, ih hrest (touches.tracked hs) (Int.lt_of_lt_of_le old (touches.next_le hs)),
      touches.texts_eq old]

/-- A job on record was there from the start or was started by one of the steps. -/
theorem onRecord_afterAll (programs : Programs) (single : ∀ step ∈ steps, step.IsSingle)
    (hs : s.Tracked) (after : (s.afterAll programs steps).OnRecord pid) :
    s.OnRecord pid ∨ ∃ earlier step later, steps = earlier ++ step :: later ∧
      (s.afterAll programs earlier).Starts step pid := by
  induction steps generalizing s with
  | nil => exact .inl after
  | cons step rest ih =>
    obtain ⟨hstep, hrest⟩ := List.forall_mem_cons.mp single
    have touches := after_touches programs hstep hs
    rcases ih hrest (touches.tracked hs) after with before | ⟨earlier, first, later, rfl, starts⟩
    · rcases touches.onRecord_before hs before with before | starts
      · exact .inl before
      · exact .inr ⟨[], step, rest, rfl, starts⟩
    · exact .inr ⟨step :: earlier, first, later, rfl, starts⟩

/-- Once off record, always off record. -/
theorem not_onRecord_afterAll (programs : Programs) (single : ∀ step ∈ steps, step.IsSingle)
    (hs : s.Tracked) (old : pid < s.machine.children.next) (off : ¬ s.OnRecord pid) :
    ¬ (s.afterAll programs steps).OnRecord pid := by
  intro after
  rcases onRecord_afterAll programs single hs after with before |
    ⟨earlier, step, later, rfl, line, command, _, _, _, hpid⟩
  · exact off before
  · have hearlier : ∀ step ∈ earlier, step.IsSingle :=
      fun step hm => single step (List.mem_append_left _ hm)
    have hle := next_le_afterAll programs hearlier hs
    exact absurd hpid (Int.ne_of_lt (Int.lt_of_lt_of_le old hle))

/-- A job stays on record through steps without an `exit` or a report after its end. -/
theorem onRecord_afterAll_of_unended (programs : Programs)
    (single : ∀ step ∈ steps, step.IsSingle) (hs : s.Tracked) (before : s.OnRecord pid)
    (notExit : ∀ earlier line later, steps = earlier ++ .line line :: later →
      ¬ (s.afterAll programs earlier).ExitLine line)
    (unended : ∀ earlier later, steps = earlier ++ .report :: later →
      (s.afterAll programs earlier).ending? pid = none) :
    (s.afterAll programs steps).OnRecord pid := by
  induction steps generalizing s with
  | nil => exact before
  | cons step rest ih =>
    obtain ⟨hstep, hrest⟩ := List.forall_mem_cons.mp single
    have touches := after_touches programs hstep hs
    refine ih hrest (touches.tracked hs) ?_ ?_ ?_
    · refine touches.onRecord_after hs before ?_ ?_
      · rintro line rfl
        exact notExit [] line rest rfl
      · rintro rfl
        exact unended [] rest rfl
    · rintro earlier line later rfl
      exact notExit (step :: earlier) line later rfl
    · rintro earlier later rfl
      exact unended (step :: earlier) later rfl

end JobShell.Session
