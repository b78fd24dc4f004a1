import JobShell.Proofs.Lifetime
import JobShell.Registry

/-!
What asking about every job brings. The system is asked about one child after the other and lets go
of those that have ended; the jobs are sorted into those that have ended and those that are kept.
-/

namespace JobShell

/-- Whether a wait can tell of the ending. -/
def Ending.isNamed : Ending → Bool
  | .exited _ => true
  | .killed signal => signal.isNamed

theorem Ending.isNamed_eq_false {ending : Ending} :
    ending.isNamed = false ↔ ∃ signal, ending = .killed signal ∧
      Signal.lastNamed < signal.number := by
  cases ending <;> simp [Ending.isNamed, Signal.isNamed]

theorem endAnswer_eq (ending : Ending) :
    endAnswer ending = if ending.isNamed then .ok ending else .error .invalidArgument := by
  cases ending <;> rfl

namespace ChildState

def answer : ChildState → Except Fault WaitResult
  | .running .. | .stopped .. => .ok .stillAlive
  | .ended ending => (endAnswer ending).map .ofEnding
  | .gone _ => .error .noChild

def reported? : ChildState → Option Status
  | .ended ending => if ending.isNamed then some ending.status else none
  | _ => none

/-- Whether the job of the child is kept after the answer: the child has not ended, or the answer
does not tell how. -/
def stays : ChildState → Bool
  | .running .. | .stopped .. => true
  | .ended ending => !ending.isNamed
  | .gone _ => false

theorem reported?_eq_some {state : ChildState} {status : Status} :
    state.reported? = some status ↔
      ∃ ending, state = .ended ending ∧ ending.isNamed = true ∧ status = ending.status := by
  cases state with
  | ended ending =>
    cases h : ending.isNamed with
    | true => simpa [reported?, h] using eq_comm
    | false => simp [reported?, h]
  | _ => simp [reported?]

end ChildState

namespace Children

def report? (c : Children) (pid : Pid) : Option Status :=
  (c.state? pid).bind ChildState.reported?

/-- Whether the job of a child is kept when it is asked about. -/
def keeps (c : Children) (pid : Pid) : Bool :=
  (c.state? pid).any ChildState.stays

variable {c : Children} {pid : Pid}

private theorem Numbered.release_eq_self (hn : c.Numbered)
    (h : ∀ ending, c.state? pid ≠ some (.ended ending)) : c.release pid = c := by
  have same : ∀ child ∈ c.all, (if child.pid = pid then child.released else child) = child := by
    intro child hm
    split
    · next hp =>
      have hs : ∀ ending, child.state ≠ .ended ending := fun ending hs =>
        h ending (hn.state?_eq_some.mpr ⟨child, hm, hp, hs⟩)
      unfold Child.released
      split
      · next ending hending => exact absurd hending (hs ending)
      · rfl
    · rfl
  rw [release_eq_update, update, List.map_congr_left same]
  simp

theorem Numbered.release (hn : c.Numbered) (pid : Pid) : (c.release pid).Numbered := by
  refine hn.of_pids_eq ?_ rfl
  simp only [pids, release_eq_update, update, List.map_map]
  refine List.map_congr_left fun child _ => ?_
  by_cases hp : child.pid = pid <;> simp [hp, Child.released_pid]

/-- To ask about one child is to learn where it is in its life, and to let go of it if it has
ended. -/
theorem Numbered.poll_eq (hn : c.Numbered) (hp : 0 < pid) :
    c.poll pid =
      (((c.state? pid).map ChildState.answer).getD (.error .noChild), c.release pid) := by
  have meant := meant_of_pos (c := c) hp
  have hleast : pid ≠ leastPid := by
    rintro rfl
    exact absurd hp (by decide)
  rw [poll, if_neg hleast]
  cases hf : c.all.find? fun child => c.Meant pid child && child.state.isEnded with
  | some child =>
    have hm := List.mem_of_find?_eq_some hf
    have hfound := List.find?_some hf
    simp only [Bool.and_eq_true, decide_eq_true_eq, meant] at hfound
    obtain ⟨rfl, hended⟩ := hfound
    rw [hn.state?_eq hm]
    cases hs : child.state <;> simp_all [ChildState.isEnded, ChildState.answer]
  | none =>
    have hnone : ∀ ending, c.state? pid ≠ some (.ended ending) := by
      intro ending hs
      obtain ⟨child, hm, hchild, hstate⟩ := exists_of_state?_eq_some hs
      have := List.find?_eq_none.mp hf child hm
      simp [meant, hchild, hstate, ChildState.isEnded] at this
    have hheld : c.all.any (fun child => c.Meant pid child && child.state.isHeld) =
        ((c.state? pid).map ChildState.isHeld).getD false := by
      cases hs : c.state? pid with
      | none =>
        have : ∀ child ∈ c.all, child.pid ≠ pid := by simpa [state?, find?] using hs
        simpa [meant] using fun child hm he => absurd he (this child hm)
      | some state =>
        obtain ⟨child, hm, rfl, rfl⟩ := exists_of_state?_eq_some hs
        rw [Option.map_some, Option.getD_some, Bool.eq_iff_iff, List.any_eq_true]
        simp only [Bool.and_eq_true, decide_eq_true_eq, meant]
        refine ⟨?_, fun h => ⟨child, hm, rfl, h⟩⟩
        rintro ⟨other, ho, he, h⟩
        rwa [← hn.eq_of_pid_eq ho hm he]
    rw [hn.release_eq_self hnone]
    simp only [hheld]
    cases hs : c.state? pid with
    | none => rfl
    | some state =>
      cases state with
      | ended ending => exact absurd hs (hnone ending)
      | _ => rfl

private theorem report?_release (c : Children) (pid other : Pid) :
    (c.release pid).report? other = if other = pid then none else c.report? other := by
  rw [report?, state?_release]
  split
  · cases c.state? other with
    | none => rfl
    | some state => cases state <;> rfl
  · rfl

private theorem keeps_of_release {other : Pid} (h : (c.release pid).keeps other = true) :
    c.keeps other = true := by
  rw [keeps, state?_release] at h
  split at h
  · cases hs : c.state? other with
    | none => simp [hs] at h
    | some state => cases state <;> simp_all [ChildState.released, ChildState.stays, keeps]
  · exact h

end Children

namespace Registry

variable {c : Children} {job : Job} {rest jobs : List Job}

theorem reap_numbered (hn : c.Numbered) (jobs : Registry) : (reap jobs c).state.Numbered :=
  reap_keeps (fun _ pid hc => hc.release pid) jobs hn

private theorem reap_cons (hn : c.Numbered) (hp : 0 < job.pid) :
    reap (job :: rest) c =
      let later := reap rest (c.release job.pid)
      { finished := ((c.report? job.pid).map (job, ·)).toList ++ later.finished
        kept := if c.keeps job.pid then job :: later.kept else later.kept
        state := later.state } := by
  obtain ⟨found, hs⟩ : ∃ found, c.state? job.pid = found := ⟨_, rfl⟩
  simp only [reap, reapWith, hn.poll_eq hp, Children.report?, Children.keeps, hs]
  cases found with
  | none => rfl
  | some state =>
    cases state with
    | ended ending =>
      cases hnamed : ending.isNamed <;>
        simp [ChildState.answer, ChildState.reported?, ChildState.stays, endAnswer_eq, hnamed,
          Except.map]
    | _ => rfl

theorem kept_sublist (hn : c.Numbered) (pos : ∀ job ∈ jobs, 0 < job.pid) :
    (reap jobs c).kept.Sublist jobs := by
  induction jobs generalizing c with
  | nil => exact .refl _
  | cons job rest ih =>
    have later := ih (hn.release job.pid) fun other ho => pos other (List.mem_cons_of_mem _ ho)
    rw [reap_cons hn (pos job List.mem_cons_self)]
    simp only
    split
    · exact later.cons_cons job
    · exact later.cons job

/-- The jobs that have ended come in the order of the record. -/
theorem finished_sublist (hn : c.Numbered) (pos : ∀ job ∈ jobs, 0 < job.pid) :
    ((reap jobs c).finished.map (·.1)).Sublist jobs := by
  induction jobs generalizing c with
  | nil => exact .refl _
  | cons job rest ih =>
    have later := ih (hn.release job.pid) fun other ho => pos other (List.mem_cons_of_mem _ ho)
    rw [reap_cons hn (pos job List.mem_cons_self)]
    cases h : c.report? job.pid with
    | none => exact later.cons job
    | some status => exact later.cons_cons job

theorem keeps_of_mem_kept (hn : c.Numbered) (pos : ∀ job ∈ jobs, 0 < job.pid)
    (hm : job ∈ (reap jobs c).kept) : c.keeps job.pid = true := by
  induction jobs generalizing c with
  | nil => cases hm
  | cons first rest ih =>
    rw [reap_cons hn (pos first List.mem_cons_self)] at hm
    have later (hm : job ∈ (reap rest (c.release first.pid)).kept) : c.keeps job.pid = true :=
      Children.keeps_of_release (ih (hn.release first.pid)
        (fun other ho => pos other (List.mem_cons_of_mem _ ho)) hm)
    simp only at hm
    split at hm
    · next hkeeps =>
      rcases List.mem_cons.mp hm with rfl | hm
      · exact hkeeps
      · exact later hm
    · exact later hm

/-- What is found out about the end of a job is true. -/
theorem report?_of_mem_finished (hn : c.Numbered) (pos : ∀ job ∈ jobs, 0 < job.pid)
    {entry : Job × Status} (hm : entry ∈ (reap jobs c).finished) :
    c.report? entry.1.pid = some entry.2 := by
  induction jobs generalizing c with
  | nil => cases hm
  | cons first rest ih =>
    rw [reap_cons hn (pos first List.mem_cons_self)] at hm
    rcases List.mem_append.mp hm with hm | hm
    · obtain ⟨status, hreport, rfl⟩ := Option.map_eq_some_iff.mp (Option.mem_toList.mp hm)
      exact hreport
    · have later := ih (hn.release first.pid)
        (fun other ho => pos other (List.mem_cons_of_mem _ ho)) hm
      rw [Children.report?_release] at later
      split at later
      · cases later
      · exact later

/-- The end of a child is found out once, even if two jobs have its number. -/
theorem finished_nodup (hn : c.Numbered) (pos : ∀ job ∈ jobs, 0 < job.pid) :
    ((reap jobs c).finished.map (·.1.pid)).Nodup := by
  induction jobs generalizing c with
  | nil => exact List.nodup_nil
  | cons job rest ih =>
    have hrest : ∀ other ∈ rest, 0 < other.pid :=
      fun other ho => pos other (List.mem_cons_of_mem _ ho)
    have later := ih (hn.release job.pid) hrest
    rw [reap_cons hn (pos job List.mem_cons_self)]
    cases h : c.report? job.pid with
    | none => exact later
    | some status =>
      refine List.nodup_cons.mpr ⟨fun hm => ?_, later⟩
      obtain ⟨entry, he, hpid⟩ := List.mem_map.mp hm
      have found := report?_of_mem_finished (hn.release job.pid) hrest he
      rw [hpid, Children.report?_release, if_pos rfl] at found
      cases found

/-- Whatever else a report does, it lets go of the children of jobs that have ended. -/
theorem reap_state (hn : c.Numbered) (pos : ∀ job ∈ jobs, 0 < job.pid) :
    (reap jobs c).state.Numbered ∧ (reap jobs c).state.next = c.next ∧
      ∀ pid, (reap jobs c).state.state? pid =
        if pid ∈ jobs.map (·.pid) then (c.state? pid).map ChildState.released
        else c.state? pid := by
  induction jobs generalizing c with
  | nil => exact ⟨hn, rfl, fun pid => by simp [reap, reapWith]⟩
  | cons job rest ih =>
    obtain ⟨hnum, hnext, hstate⟩ := ih (hn.release job.pid)
      fun other ho => pos other (List.mem_cons_of_mem _ ho)
    rw [reap_cons hn (pos job List.mem_cons_self)]
    refine ⟨hnum, hnext, fun pid => ?_⟩
    simp only [hstate, Children.state?_release, List.map_cons, List.mem_cons]
    have twice : ChildState.released ∘ ChildState.released = ChildState.released := by
      funext state
      cases state <;> rfl
    by_cases hp : pid = job.pid <;> by_cases hr : pid ∈ rest.map (·.pid) <;>
      simp [hp, hr, Option.map_map, twice]

/-- A job whose child has not ended is kept, even if two jobs have one number. -/
theorem mem_reap_kept (hn : c.Numbered) (pos : ∀ job ∈ jobs, 0 < job.pid) (hm : job ∈ jobs)
    {state : ChildState} (hs : c.state? job.pid = some state) (going : state.ending? = none) :
    job ∈ (reap jobs c).kept := by
  induction jobs generalizing c with
  | nil => cases hm
  | cons first rest ih =>
    rw [reap_cons hn (pos first List.mem_cons_self)]
    rcases List.mem_cons.mp hm with rfl | hm
    · have hkeeps : c.keeps job.pid = true := by
        rw [Children.keeps, hs]
        cases state <;> simp_all [ChildState.ending?, ChildState.stays]
      simp [hkeeps]
    · have later := ih (hn.release first.pid)
        (fun other ho => pos other (List.mem_cons_of_mem _ ho)) hm (by
          rw [Children.state?_release, hs]
          cases state <;> simp_all [ChildState.ending?, ChildState.released])
      simp only
      split
      · exact List.mem_cons_of_mem _ later
      · exact later

/-- If no two jobs have one number, what is found out about each job and whether it is kept is up to
its own child. -/
theorem reap_eq (hn : c.Numbered) (pos : ∀ job ∈ jobs, 0 < job.pid)
    (distinct : (jobs.map (·.pid)).Nodup) :
    (reap jobs c).finished = jobs.filterMap (fun job => (c.report? job.pid).map (job, ·)) ∧
      (reap jobs c).kept = jobs.filter fun job => c.keeps job.pid := by
  induction jobs generalizing c with
  | nil => exact ⟨rfl, rfl⟩
  | cons first rest ih =>
    obtain ⟨hfirst, hrest⟩ := List.nodup_cons.mp distinct
    have other : ∀ job ∈ rest, (c.release first.pid).state? job.pid = c.state? job.pid := by
      intro job hm
      have hne : job.pid ≠ first.pid := by
        intro he
        exact hfirst (List.mem_map.mpr ⟨job, hm, he⟩)
      rw [Children.state?_release, if_neg hne]
    obtain ⟨hfinished, hkept⟩ := ih (hn.release first.pid)
      (fun job hm => pos job (List.mem_cons_of_mem _ hm)) hrest
    rw [reap_cons hn (pos first List.mem_cons_self)]
    constructor
    · have same : rest.filterMap (fun job =>
          ((c.release first.pid).report? job.pid).map (job, ·)) =
          rest.filterMap fun job => (c.report? job.pid).map (job, ·) :=
        List.filterMap_congr fun job hm => by rw [Children.report?, other job hm, Children.report?]
      simp only [hfinished, same, List.filterMap_cons]
      cases c.report? first.pid <;> rfl
    · have same : rest.filter (fun job => (c.release first.pid).keeps job.pid) =
          rest.filter fun job => c.keeps job.pid :=
        List.filter_congr fun job hm => by rw [Children.keeps, other job hm, Children.keeps]
      simp only [hkept, same, List.filter_cons]

/-- A job whose child has ended is found out, even if two jobs have one number. -/
theorem mem_reap_finished (hn : c.Numbered) (pos : ∀ job ∈ jobs, 0 < job.pid) (hm : job ∈ jobs)
    {status : Status} (hr : c.report? job.pid = some status) :
    ∃ entry ∈ (reap jobs c).finished, entry.1.pid = job.pid ∧ entry.2 = status := by
  induction jobs generalizing c with
  | nil => cases hm
  | cons first rest ih =>
    rw [reap_cons hn (pos first List.mem_cons_self)]
    by_cases hfirst : first.pid = job.pid
    · exact ⟨(first, status), by simp [hfirst, hr], hfirst, rfl⟩
    · have hmem : job ∈ rest := by
        rcases List.mem_cons.mp hm with rfl | hm
        · exact absurd rfl hfirst
        · exact hm
      obtain ⟨entry, he, hentry⟩ := ih (hn.release first.pid)
        (fun other ho => pos other (List.mem_cons_of_mem _ ho)) hmem (by
          rw [Children.report?, Children.state?_release, if_neg fun h => hfirst h.symm]
          exact hr)
      exact ⟨entry, List.mem_append_right _ he, hentry⟩

end Registry

end JobShell
