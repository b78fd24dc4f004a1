import JobShell.Proofs.Effects
import JobShell.Proofs.Polling

/-!
The jobs on record are children of the shell, in every state of a session. A report takes those off
record that have ended in a way that a wait can tell, and keeps those that have not ended.
-/

namespace JobShell

/-- Whether a job may stand on record for a child: the child is held, or a wait let go of it
without telling how it ended. -/
def ChildState.isListed : ChildState → Bool
  | .gone ending => !ending.isNamed
  | _ => true

private theorem ChildState.isListed_of_isHeld {state : ChildState} (h : state.isHeld = true) :
    state.isListed = true := by
  cases state <;> simp_all [isHeld, isListed]

theorem ChildState.Lives.isListed {state later : ChildState} (h : state.Lives later)
    (hs : state.isListed = true) : later.isListed = true := by
  cases he : state.ending? with
  | some ending => rwa [h.ending ending he]
  | none =>
    exact isListed_of_isHeld (h.held.trans (Child.isHeld_of_ending?_eq_none he))

namespace Session

/-- A job with this number is on record. -/
def OnRecord (s : Session) (pid : Pid) : Prop :=
  ∃ job ∈ s.shell.jobs, job.pid = pid

def ending? (s : Session) (pid : Pid) : Option Ending :=
  (s.machine.children.state? pid).bind ChildState.ending?

/-- Every job on record is a child of the shell. -/
structure Tracked (s : Session) : Prop where
  numbered : s.machine.children.Numbered
  known : ∀ job ∈ s.shell.jobs, ∃ state, s.machine.children.state? job.pid = some state ∧
    state.isListed = true

variable {s s' : Session} {command : Command} {child : Child} {text : String} {job : Job}
  {ending : Ending} {entry : Job × Status}

theorem Fresh.tracked (fresh : s.Fresh) : s.Tracked where
  numbered :=
    { nodup := by simp [Children.pids, fresh.children]
      pos := by simp [fresh.children]
      lt_next := by simp [fresh.children]
      next_pos := fresh.next }
  known := by simp [fresh.jobs]

theorem Tracked.pos (hs : s.Tracked) : ∀ job ∈ s.shell.jobs, 0 < job.pid := by
  intro job hj
  obtain ⟨state, hstate, _⟩ := hs.known job hj
  exact (hs.numbered.bounds hstate).1

theorem Tracked.lt_next (hs : s.Tracked) (hj : job ∈ s.shell.jobs) :
    job.pid < s.machine.children.next := by
  obtain ⟨state, hstate, _⟩ := hs.known job hj
  exact (hs.numbered.bounds hstate).2

theorem Tracked.spares (hs : s.Tracked) (h : s.Spares s') : s'.Tracked where
  numbered := hs.numbered.live h.children
  known job hj := by
    obtain ⟨state, hstate, hlisted⟩ := hs.known job (h.jobs ▸ hj)
    obtain ⟨state', hstate', hlives⟩ := h.children.state?_after hs.numbered hstate
    exact ⟨state', hstate', hlives.isListed hlisted⟩

private theorem Adds.tracked (h : s.Adds text child s') (hs : s.Tracked)
    (jobs : ∀ job ∈ s'.shell.jobs, job ∈ s.shell.jobs ∨
      job.pid = child.pid ∧ child.state.isHeld = true) : s'.Tracked where
  numbered := hs.numbered.joined h.children
  known job hj := by
    rcases jobs job hj with hj | ⟨hp, held⟩
    · obtain ⟨state, hstate, hlisted⟩ := hs.known job hj
      obtain ⟨state', hstate', hlives⟩ := h.children.state?_after hs.numbered hstate
      exact ⟨state', hstate', hlives.isListed hlisted⟩
    · refine ⟨child.state, ?_, ChildState.isListed_of_isHeld held⟩
      rw [hp]
      exact h.children.state?_self hs.numbered

theorem Affects.tracked (h : s.Affects command s') (hs : s.Tracked) : s'.Tracked := by
  cases h with
  | spares notExit spares => exact hs.spares spares
  | exits isExit children texts jobs =>
    exact ⟨hs.numbered.live children, by simp [jobs]⟩
  | waits adds external foreground jobs gone =>
    exact adds.tracked hs fun job hj => .inl (jobs ▸ hj)
  | lists adds launches jobs held =>
    refine adds.tracked hs fun job hj => ?_
    rcases List.mem_cons.mp (jobs ▸ hj) with rfl | hj
    · exact .inr ⟨rfl, held⟩
    · exact .inl hj

/-- A report adds nothing to the record. -/
theorem Tracked.reaping_sublist (hs : s.Tracked) :
    s.reaping.shell.jobs.Sublist s.shell.jobs :=
  Registry.kept_sublist hs.numbered hs.pos

/-- What a report knows of a child afterwards. -/
theorem Tracked.reaping_state? (hs : s.Tracked) (pid : Pid) :
    s.reaping.machine.children.state? pid =
      if pid ∈ s.shell.jobs.map (·.pid) then (s.machine.children.state? pid).map ChildState.released
      else s.machine.children.state? pid :=
  (Registry.reap_state hs.numbered hs.pos).2.2 pid

private theorem Tracked.stays_of_reaping (hs : s.Tracked) (hj : job ∈ s.reaping.shell.jobs) :
    ∃ state, s.machine.children.state? job.pid = some state ∧ state.stays = true :=
  (Option.any_eq_true _ _).mp (Registry.keeps_of_mem_kept hs.numbered hs.pos hj)

/-- A job whose child has not ended stays on record. -/
theorem Tracked.mem_reaping (hs : s.Tracked) (hj : job ∈ s.shell.jobs)
    (unended : s.ending? job.pid = none) : job ∈ s.reaping.shell.jobs := by
  obtain ⟨state, hstate, _⟩ := hs.known job hj
  rw [ending?, hstate] at unended
  exact Registry.mem_reap_kept hs.numbered hs.pos hj hstate unended

/-- A job whose child has ended in a way that a wait can tell does not stay on record. -/
theorem Tracked.notMem_reaping (hs : s.Tracked) (hend : s.ending? job.pid = some ending)
    (named : ending.isNamed = true) : job ∉ s.reaping.shell.jobs := by
  intro hj
  obtain ⟨state, hstate, hstays⟩ := hs.stays_of_reaping hj
  rw [ending?, hstate] at hend
  cases state <;> simp_all [ChildState.ending?, ChildState.stays]

/-- The reports come in the order of the record. -/
theorem Tracked.reports_sublist (hs : s.Tracked) :
    (s.reports.map (·.1)).Sublist s.shell.jobs :=
  Registry.finished_sublist hs.numbered hs.pos

/-- No child is reported twice. -/
theorem Tracked.reports_nodup (hs : s.Tracked) : (s.reports.map (·.1.pid)).Nodup :=
  Registry.finished_nodup hs.numbered hs.pos

/-- Reports are true. -/
theorem Tracked.ending?_of_mem_reports (hs : s.Tracked) (hm : entry ∈ s.reports) :
    ∃ ending, s.ending? entry.1.pid = some ending ∧ ending.isNamed = true ∧
      entry.2 = ending.status := by
  obtain ⟨state, hstate, hreported⟩ := Option.bind_eq_some_iff.mp
    (Registry.report?_of_mem_finished hs.numbered hs.pos hm)
  obtain ⟨ending, rfl, named, hstatus⟩ := ChildState.reported?_eq_some.mp hreported
  refine ⟨ending, ?_, named, hstatus⟩
  rw [ending?, hstate]
  rfl

/-- Every job on record is reported whose child has ended in a way that a wait can tell. -/
theorem Tracked.exists_report (hs : s.Tracked) (hj : job ∈ s.shell.jobs)
    (hend : s.ending? job.pid = some ending) (named : ending.isNamed = true) :
    ∃ entry ∈ s.reports, entry.1.pid = job.pid ∧ entry.2 = ending.status := by
  obtain ⟨state, hstate, hlisted⟩ := hs.known job hj
  rw [ending?, hstate] at hend
  have hended : state = .ended ending := by
    cases state <;> simp_all [ChildState.ending?, ChildState.isListed]
  refine Registry.mem_reap_finished hs.numbered hs.pos hj ?_
  rw [Children.report?, hstate]
  exact ChildState.reported?_eq_some.mpr ⟨ending, hended, named, rfl⟩

theorem Tracked.reaping (hs : s.Tracked) : s.reaping.Tracked where
  numbered := (Registry.reap_state hs.numbered hs.pos).1
  known job hj := by
    obtain ⟨state, hstate, hstays⟩ := hs.stays_of_reaping hj
    refine ⟨state.released, ?_, ?_⟩
    · rw [hs.reaping_state?, if_pos (List.mem_map_of_mem (hs.reaping_sublist.subset hj)), hstate]
      rfl
    · cases state <;> simp_all [ChildState.stays, ChildState.released, ChildState.isListed]

theorem Touches.tracked {step : SessionStep} (h : s.Touches step s') (hs : s.Tracked) :
    s'.Tracked := by
  cases h with
  | spares notReport notExit spares => exact hs.spares spares
  | runs is parses affects => exact affects.tracked hs
  | reaps is spares => exact hs.reaping.spares spares

/-- The jobs on record stay children of the shell, whatever happens. -/
theorem afterAll_tracked (programs : Programs) (hs : s.Tracked) (steps : List SessionStep) :
    (s.afterAll programs steps).Tracked :=
  afterAll_invariant programs (fun _ hs => hs.numbered)
    (fun _ _ _ _ stepped hs => stepped.touches.tracked hs) hs steps

end Session

end JobShell
