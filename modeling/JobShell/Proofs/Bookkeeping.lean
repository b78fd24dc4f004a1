import JobShell.Proofs.Polling

/-!
The books of a registry. Jobs are inserted in front, taken out by number, drained, and sorted by what
is answered when somebody asks about their children. Every job that was inserted is still on record
or went one way, and those on record are in the order in which they came.
-/

namespace JobShell

abbrev Answer := Except Fault WaitResult

namespace Answer

def status? : Answer → Option Status
  | .ok result => Status.ofWait? result
  | .error _ => none

def isUnknown : Answer → Bool
  | .error .noChild => true
  | _ => false

/-- Whether a job stays on record after the answer. -/
def keeps (answer : Answer) : Bool :=
  answer.status?.isNone && !answer.isUnknown

private theorem status?_of_isUnknown {answer : Answer} (h : answer.isUnknown = true) :
    answer.status? = none := by
  cases answer with
  | ok result => cases h
  | error fault => rfl

/-- A job goes one of three ways after the answer. -/
theorem cases (answer : Answer) :
    (∃ status, answer.status? = some status ∧ answer.isUnknown = false ∧ answer.keeps = false) ∨
      (answer.status? = none ∧ answer.isUnknown = true ∧ answer.keeps = false) ∨
      (answer.status? = none ∧ answer.isUnknown = false ∧ answer.keeps = true) := by
  cases hu : answer.isUnknown with
  | true => exact .inr (.inl ⟨status?_of_isUnknown hu, rfl, by simp [keeps, hu]⟩)
  | false =>
    cases hs : answer.status? with
    | none => exact .inr (.inr ⟨rfl, rfl, by simp [keeps, hu, hs]⟩)
    | some status => exact .inl ⟨status, rfl, rfl, by simp [keeps, hs]⟩

end Answer

namespace Registry

variable {σ : Type} {ask : Pid → σ → Answer × σ} {jobs newer older : Registry} {job : Job}

def answered (ask : Pid → σ → Answer × σ) : Registry → σ → List (Job × Answer)
  | [], _ => []
  | job :: rest, state => (job, (ask job.pid state).1) :: answered ask rest (ask job.pid state).2

/-- The jobs that are dropped, since their children are not known. -/
def dropped (ask : Pid → σ → Answer × σ) (jobs : Registry) (state : σ) : List Job :=
  ((answered ask jobs state).filter (·.2.isUnknown)).map (·.1)

private theorem dropped_cons (ask : Pid → σ → Answer × σ) (job : Job) (rest : Registry)
    (state : σ) : dropped ask (job :: rest) state =
      (if (ask job.pid state).1.isUnknown then [job] else []) ++
        dropped ask rest (ask job.pid state).2 := by
  by_cases h : (ask job.pid state).1.isUnknown = true <;> simp [dropped, answered, h]

private theorem answered_map_fst (ask : Pid → σ → Answer × σ) (jobs : Registry) (state : σ) :
    (answered ask jobs state).map (·.1) = jobs := by
  induction jobs generalizing state with
  | nil => rfl
  | cons job rest ih => rw [answered, List.map_cons, ih]

private theorem reapWith_cons (ask : Pid → σ → Answer × σ) (job : Job) (rest : Registry)
    (state : σ) : reapWith ask (job :: rest) state =
      let answer := (ask job.pid state).1
      let later := reapWith ask rest (ask job.pid state).2
      { finished := (answer.status?.map (job, ·)).toList ++ later.finished
        kept := if answer.keeps then job :: later.kept else later.kept
        state := later.state } := by
  rw [reapWith]
  obtain ⟨answer, after⟩ := ask job.pid state
  cases answer with
  | ok result =>
    cases hs : Status.ofWait? result <;>
      simp [Answer.status?, Answer.keeps, Answer.isUnknown, hs]
  | error fault => cases fault <;> rfl

private theorem reapWith_finished (ask : Pid → σ → Answer × σ) (jobs : Registry) (state : σ) :
    (reapWith ask jobs state).finished =
      (answered ask jobs state).filterMap fun (job, answer) => answer.status?.map (job, ·) := by
  induction jobs generalizing state with
  | nil => rfl
  | cons job rest ih =>
    simp only [reapWith_cons, answered, List.filterMap_cons, ih]
    cases (ask job.pid state).1.status? <;> rfl

private theorem reapWith_kept (ask : Pid → σ → Answer × σ) (jobs : Registry) (state : σ) :
    (reapWith ask jobs state).kept =
      ((answered ask jobs state).filter (·.2.keeps)).map (·.1) := by
  induction jobs generalizing state with
  | nil => rfl
  | cons job rest ih =>
    simp only [reapWith_cons, answered, List.filter_cons, ih]
    cases (ask job.pid state).1.keeps <;> rfl

private theorem mem_reapWith_finished {state : σ} {entry : Job × Status} :
    entry ∈ (reapWith ask jobs state).finished ↔
      ∃ answer : Answer, (entry.1, answer) ∈ answered ask jobs state ∧
        answer.status? = some entry.2 := by
  rw [reapWith_finished, List.mem_filterMap]
  constructor
  · rintro ⟨⟨job, answer⟩, hm, h⟩
    obtain ⟨status, hs, rfl⟩ := Option.map_eq_some_iff.mp h
    exact ⟨answer, hm, hs⟩
  · rintro ⟨answer, hm, hs⟩
    exact ⟨(entry.1, answer), hm, by simp [hs]⟩

private theorem mem_reapWith_kept {state : σ} :
    job ∈ (reapWith ask jobs state).kept ↔
      ∃ answer : Answer, (job, answer) ∈ answered ask jobs state ∧ answer.keeps = true := by
  rw [reapWith_kept, List.mem_map]
  constructor
  · rintro ⟨⟨other, answer⟩, hm, rfl⟩
    exact ⟨answer, List.mem_filter.mp hm⟩
  · rintro ⟨answer, hm⟩
    exact ⟨(job, answer), List.mem_filter.mpr hm, rfl⟩

private theorem answered_append (newer older : Registry) (state : σ) :
    answered ask (newer ++ older) state =
      answered ask newer state ++ answered ask older (reapWith ask newer state).state := by
  induction newer generalizing state with
  | nil => rfl
  | cons job rest ih => rw [List.cons_append, answered, answered, ih, reapWith_cons]; rfl

private theorem reapWith_finished_append (newer older : Registry) (state : σ) :
    (reapWith ask (newer ++ older) state).finished = (reapWith ask newer state).finished ++
      (reapWith ask older (reapWith ask newer state).state).finished := by
  simp only [reapWith_finished, answered_append, List.filterMap_append]

private theorem reapWith_kept_append (newer older : Registry) (state : σ) :
    (reapWith ask (newer ++ older) state).kept = (reapWith ask newer state).kept ++
      (reapWith ask older (reapWith ask newer state).state).kept := by
  simp only [reapWith_kept, answered_append, List.filter_append, List.map_append]

/-- Asking about jobs leaves those that are kept in their order. -/
theorem reapWith_kept_sublist (ask : Pid → σ → Answer × σ) (jobs : Registry) (state : σ) :
    (reapWith ask jobs state).kept.Sublist jobs := by
  have h := (List.filter_sublist (l := answered ask jobs state) (p := (·.2.keeps))).map (·.1)
  rwa [← reapWith_kept, answered_map_fst] at h

private theorem reapWith_finished_sublist (ask : Pid → σ → Answer × σ) (jobs : Registry)
    (state : σ) : ((reapWith ask jobs state).finished.map (·.1)).Sublist jobs := by
  induction jobs generalizing state with
  | nil => exact .refl _
  | cons job rest ih =>
    simp only [reapWith_cons]
    cases (ask job.pid state).1.status? with
    | none => exact (ih _).cons job
    | some status => exact (ih _).cons_cons job

/-- Asking about every job moves none but those that have ended and those that are dropped. -/
theorem reapWith_perm (ask : Pid → σ → Answer × σ) (jobs : Registry) (state : σ) :
    jobs.Perm ((reapWith ask jobs state).kept ++ (reapWith ask jobs state).finished.map (·.1) ++
      dropped ask jobs state) := by
  induction jobs generalizing state with
  | nil => exact .refl _
  | cons job rest ih =>
    have later := ih (ask job.pid state).2
    simp only [dropped_cons, reapWith_cons]
    rcases (ask job.pid state).1.cases with ⟨status, hs, hu, hk⟩ | ⟨hs, hu, hk⟩ | ⟨hs, hu, hk⟩
    · rw [hs, hu, hk]
      exact (later.cons job).trans (List.perm_middle.symm.append_right _)
    · rw [hs, hu, hk]
      exact (later.cons job).trans List.perm_middle.symm
    · rw [hs, hu, hk]
      exact later.cons job

/-- The job that is taken out is the most recent one with the number, and no other moves. -/
theorem remove_of_contains {pid : Pid} (h : jobs.contains pid = true) :
    ∃ newer job older, jobs = newer ++ job :: older ∧ job.pid = pid ∧
      (∀ other ∈ newer, other.pid ≠ pid) ∧ jobs.remove pid = (some job, newer ++ older) := by
  obtain ⟨found, hm, hp⟩ := contains_iff.mp h
  obtain ⟨job, newer, older, hnewer, hjob, rfl, herase⟩ :=
    List.exists_of_eraseP hm (p := (·.pid == pid)) (by simpa using hp)
  have other : ∀ other ∈ newer, other.pid ≠ pid := fun other ho => by simpa using hnewer other ho
  refine ⟨newer, job, older, rfl, by simpa using hjob, other, ?_⟩
  have absent : newer.find? (·.pid == pid) = none := by simpa using other
  rw [remove, herase, List.find?_append, absent, Option.none_or]
  simp [hjob]

private theorem remove_perm (jobs : Registry) (pid : Pid) :
    jobs.Perm ((jobs.remove pid).2 ++ (jobs.remove pid).1.toList) := by
  cases h : jobs.contains pid with
  | false => simp [remove_of_not_contains h]
  | true =>
    obtain ⟨newer, job, older, rfl, -, -, hr⟩ := remove_of_contains h
    rw [hr]
    exact List.perm_middle.trans (List.perm_append_singleton job (newer ++ older)).symm

private theorem remove_sublist (jobs : Registry) (pid : Pid) : (jobs.remove pid).2.Sublist jobs :=
  List.eraseP_sublist

end Registry

namespace Children

variable {c : Children} {pid : Pid} {ending : Ending}

/-- Whether a wait for `asked` may be answered with the end of the child with the number `pid`. -/
def Covers (c : Children) (asked pid : Pid) : Prop :=
  ∃ child ∈ c.all, child.pid = pid ∧ c.Meant asked child

private theorem covers_of_release {asked other : Pid} (h : (c.release other).Covers asked pid) :
    c.Covers asked pid := by
  obtain ⟨after, hm, hp, meant⟩ := h
  rw [release_eq_update, update, List.mem_map] at hm
  obtain ⟨child, hm, rfl⟩ := hm
  have same (child : Child) : child.released.group = child.group := by
    unfold Child.released
    split <;> rfl
  refine ⟨child, hm, ?_, ?_⟩
  · split at hp
    · exact (child.released_pid).symm.trans hp
    · exact hp
  · split at meant
    · simpa only [Meant, child.released_pid, same, release_eq_update, update] using meant
    · exact meant

private theorem covers_of_poll {asked first : Pid} (h : (c.poll first).2.Covers asked pid) :
    c.Covers asked pid := by
  have earlier : ∀ d : Children, ∀ other,
      (d.Covers asked pid → c.Covers asked pid) →
        (d.release other).Covers asked pid → c.Covers asked pid :=
    fun _ _ before after => before (covers_of_release after)
  exact poll_keeps earlier (fun covers => covers) first h

private theorem Numbered.poll_spares (hn : c.Numbered) (hs : c.state? pid = some (.ended ending))
    (asked : Pid) :
    (c.poll asked).2.state? pid = some (.ended ending) ∨
      c.Covers asked pid ∧
        c.poll asked = ((endAnswer ending).map .ofEnding, c.release pid) := by
  unfold poll
  split
  · exact .inl hs
  · split
    · next child hf =>
      have hm := List.mem_of_find?_eq_some hf
      have hfound := List.find?_some hf
      simp only [Bool.and_eq_true, decide_eq_true_eq] at hfound
      by_cases hp : child.pid = pid
      · have hstate : child.state = .ended ending := by
          have := hn.state?_eq hm
          rw [hp, hs] at this
          exact (Option.some.inj this).symm
        rw [hstate, hp]
        exact .inr ⟨⟨child, hm, hp, hfound.1⟩, rfl⟩
      · left
        split
        · rw [state?_release, if_neg fun h => hp h.symm]
          exact hs
        · exact hs
    · left
      split <;> exact hs

/-- That a child was let go of. -/
def Gone (pid : Pid) (ending : Ending) (c : Children) : Prop :=
  c.state? pid = some (.gone ending)

theorem Gone.release (c : Children) (other : Pid) (h : c.Gone pid ending) :
    (c.release other).Gone pid ending := by
  rw [Gone, state?_release, h]
  split <;> rfl

private theorem gone_of_release (hs : c.state? pid = some (.ended ending)) :
    (c.release pid).Gone pid ending := by
  rw [Gone, state?_release, if_pos rfl, hs]
  rfl

theorem Numbered.poll (hn : c.Numbered) (asked : Pid) : (c.poll asked).2.Numbered :=
  poll_keeps (fun _ pid h => h.release pid) hn asked

end Children

namespace Registry

variable {c : Children} {jobs newer older : Registry} {job : Job} {pid : Pid} {ending : Ending}

abbrev polled (jobs : Registry) (c : Children) : List (Job × Answer) :=
  answered (fun pid children => children.poll pid) jobs c

private theorem isUnknown_of_gone (hn : c.Numbered) (hg : c.Gone pid ending) {entry : Job × Answer}
    (hm : entry ∈ jobs.polled c) (hp : entry.1.pid = pid) : entry.2.isUnknown = true := by
  induction jobs generalizing c with
  | nil => cases hm
  | cons first rest ih =>
    rcases List.mem_cons.mp hm with rfl | hm
    · subst hp
      have pos := (hn.bounds hg).1
      have found : c.state? first.pid = some (.gone ending) := hg
      simp only [hn.poll_eq pos, found]
      rfl
    · exact ih (hn.poll first.pid) (Children.poll_keeps Children.Gone.release hg first.pid) hm

private theorem reap_spares (hn : c.Numbered) (hs : c.state? pid = some (.ended ending))
    (hnamed : ending.isNamed = true) (newer : Registry) :
    (newer.reap c).state.state? pid = some (.ended ending) ∨
      (newer.reap c).state.Gone pid ending ∧
        ∃ wild ∈ newer, c.Covers wild.pid pid ∧
          (wild, ending.status) ∈ (newer.reap c).finished := by
  induction newer generalizing c with
  | nil => exact .inl hs
  | cons first rest ih =>
    simp only [reap, reapWith_cons]
    -- the end can be told once: from the job that it was told about on, the child is gone
    rcases hn.poll_spares hs first.pid with hs' | ⟨wild, hpoll⟩
    · rcases ih (hn.poll first.pid) hs' with h | ⟨h, job, hm, covers, hfinished⟩
      · exact .inl h
      · exact .inr ⟨h, job, List.mem_cons_of_mem _ hm, Children.covers_of_poll covers,
          List.mem_append_right _ hfinished⟩
    · rw [hpoll, endAnswer_eq, hnamed]
      refine .inr ⟨reap_keeps Children.Gone.release rest (Children.gone_of_release hs), first,
        List.mem_cons_self, wild, List.mem_append_left _ ?_⟩
      simp [Answer.status?, Except.map]

private theorem reap_of_gone (jobs : Registry) (hn : c.Numbered) (hg : c.Gone pid ending) :
    (∀ job ∈ (jobs.reap c).kept, job.pid ≠ pid) ∧
      ∀ entry ∈ (jobs.reap c).finished, entry.1.pid ≠ pid := by
  constructor
  · intro job hm hp
    obtain ⟨answer, hm, hkeeps⟩ := mem_reapWith_kept.mp hm
    have unknown := isUnknown_of_gone hn hg hm hp
    simp [Answer.keeps, unknown] at hkeeps
  · intro entry hm hp
    obtain ⟨answer, hm, hstatus⟩ := mem_reapWith_finished.mp hm
    have unknown := isUnknown_of_gone hn hg hm hp
    rw [Answer.status?_of_isUnknown unknown] at hstatus
    cases hstatus

private theorem reap_cons_of_ended (hn : c.Numbered) (hs : c.state? job.pid = some (.ended ending))
    (hnamed : ending.isNamed = true) (rest : Registry) :
    reap (job :: rest) c =
      let later := reap rest (c.release job.pid)
      { later with finished := (job, ending.status) :: later.finished } := by
  have answer : c.poll job.pid = (.ok (.ofEnding ending), c.release job.pid) := by
    rw [hn.poll_eq (hn.bounds hs).1, hs]
    simp [ChildState.answer, endAnswer_eq, hnamed, Except.map]
  rw [reap, reapWith_cons, answer]
  simp [Answer.status?, Answer.keeps, reap]

/-- Of the jobs with the number of a child that has ended, the most recent one is found out and the
others are dropped; all are dropped if the end is the answer about a more recent job, whose wait may
mean the child. -/
theorem reap_of_ended (hn : c.Numbered) (hs : c.state? job.pid = some (.ended ending))
    (hnamed : ending.isNamed = true) (other : ∀ job' ∈ newer, job'.pid ≠ job.pid) :
    (∀ job' ∈ (reap (newer ++ job :: older) c).kept, job'.pid ≠ job.pid) ∧
      ((reap (newer ++ job :: older) c).finished.filter (·.1.pid = job.pid) =
          [(job, ending.status)] ∨
        (∀ entry ∈ (reap (newer ++ job :: older) c).finished, entry.1.pid ≠ job.pid) ∧
          ∃ wild ∈ newer, c.Covers wild.pid job.pid ∧
            (wild, ending.status) ∈ (reap (newer ++ job :: older) c).finished) := by
  have hn' : (newer.reap c).state.Numbered := reap_numbered hn newer
  have kept_newer : ∀ job' ∈ (newer.reap c).kept, job'.pid ≠ job.pid := fun job' hm =>
    other job' ((reapWith_kept_sublist _ _ _).subset hm)
  have finished_newer : ∀ entry ∈ (newer.reap c).finished, entry.1.pid ≠ job.pid :=
    fun entry hm => other entry.1
      ((reapWith_finished_sublist _ _ _).subset (List.mem_map_of_mem hm))
  have hkept : (reap (newer ++ job :: older) c).kept =
      (newer.reap c).kept ++ (reap (job :: older) (newer.reap c).state).kept :=
    reapWith_kept_append newer (job :: older) c
  have hfinished : (reap (newer ++ job :: older) c).finished =
      (newer.reap c).finished ++ (reap (job :: older) (newer.reap c).state).finished :=
    reapWith_finished_append newer (job :: older) c
  rw [hkept, hfinished]
  -- either the job itself is told the end, or the child is gone before it is asked about
  rcases reap_spares hn hs hnamed newer with hs' | ⟨hg, wild, hm, hwild, hfound⟩
  · have hg := Children.gone_of_release hs'
    obtain ⟨kept_older, finished_older⟩ := reap_of_gone older (hn'.release job.pid) hg
    rw [reap_cons_of_ended hn' hs' hnamed older]
    refine ⟨?_, .inl ?_⟩
    · intro job' hm
      exact (List.mem_append.mp hm).elim (kept_newer job') (kept_older job')
    · have none_newer := List.filter_eq_nil_iff.mpr fun entry hm =>
        decide_eq_true_iff.not.mpr (finished_newer entry hm)
      have none_older := List.filter_eq_nil_iff.mpr fun entry hm =>
        decide_eq_true_iff.not.mpr (finished_older entry hm)
      simp [List.filter_append, none_newer, none_older]
  · obtain ⟨kept_older, finished_older⟩ := reap_of_gone (job :: older) hn' hg
    refine ⟨?_, .inr ⟨?_, wild, hm, hwild, List.mem_append_left _ hfound⟩⟩
    · intro job' hm
      exact (List.mem_append.mp hm).elim (kept_newer job') (kept_older job')
    · intro entry hm
      exact (List.mem_append.mp hm).elim (finished_newer entry) (finished_older entry)

end Registry

/-- One use of a registry. Whoever is asked about the jobs may answer anything, and may be in any
state when the asking starts. -/
inductive RegistryUse (σ : Type) where
  | insert (pid : Pid) (command : String)
  | remove (pid : Pid)
  /-- All jobs are taken out, of which somebody takes the first `count`. -/
  | drain (count : Nat)
  | reap (ask : Pid → σ → Answer × σ) (state : σ)

/-- What became of the jobs of a registry. -/
structure Ledger where
  /-- The jobs that are on record. -/
  jobs : Registry := []
  /-- The jobs that were inserted, the most recent first. -/
  inserted : List Job := []
  /-- The jobs that were taken out by number. -/
  removed : List Job := []
  /-- The jobs that somebody took while the registry was drained. -/
  drained : List Job := []
  /-- The jobs that nobody took while the registry was drained. -/
  discarded : List Job := []
  /-- The jobs that have ended, with how they did. -/
  reaped : List (Job × Status) := []
  /-- The jobs whose children were not known. -/
  dropped : List Job := []

namespace Ledger

variable {σ : Type}

def after (books : Ledger) : RegistryUse σ → Ledger
  | .insert pid command =>
    { books with
      jobs := books.jobs.insert pid command
      inserted := { pid, command } :: books.inserted }
  | .remove pid =>
    { books with
      jobs := (books.jobs.remove pid).2
      removed := books.removed ++ (books.jobs.remove pid).1.toList }
  | .drain count =>
    { books with
      jobs := (books.jobs.drain count).2
      drained := books.drained ++ (books.jobs.drain count).1
      discarded := books.discarded ++ books.jobs.drop count }
  | .reap ask state =>
    { books with
      jobs := (books.jobs.reapWith ask state).kept
      reaped := books.reaped ++ (books.jobs.reapWith ask state).finished
      dropped := books.dropped ++ books.jobs.dropped ask state }

def ofUses (uses : List (RegistryUse σ)) : Ledger :=
  uses.foldl after {}

/-- The jobs that are not on record any more. -/
def left (books : Ledger) : List Job :=
  books.removed ++ books.drained ++ books.discarded ++ books.reaped.map (·.1) ++ books.dropped

/-- The jobs on record are in the order in which they came, and every job that was inserted is on
record or went one way. -/
structure Balanced (books : Ledger) : Prop where
  ordered : books.jobs.Sublist books.inserted
  accounted : books.inserted.Perm (books.jobs ++ books.left)

private theorem Balanced.leave {books later : Ledger} {leaving : List Job} (h : books.Balanced)
    (inserted : later.inserted = books.inserted) (kept : later.jobs.Sublist books.jobs)
    (split : books.jobs.Perm (later.jobs ++ leaving))
    (entered : later.left.Perm (leaving ++ books.left)) : later.Balanced where
  ordered := inserted ▸ kept.trans h.ordered
  accounted := by
    rw [inserted]
    refine h.accounted.trans ((split.append_right books.left).trans ?_)
    rw [List.append_assoc]
    exact entered.symm.append_left later.jobs

theorem Balanced.after {books : Ledger} (h : books.Balanced) (use : RegistryUse σ) :
    (books.after use).Balanced := by
  cases use with
  | insert pid command => exact ⟨h.ordered.cons_cons _, h.accounted.cons _⟩
  | remove pid =>
    refine h.leave rfl (books.jobs.remove_sublist pid) (books.jobs.remove_perm pid) ?_
    refine List.perm_iff_count.mpr fun job => ?_
    simp only [left, Ledger.after, List.count_append]
    omega
  | drain count =>
    have split : books.jobs.Perm ([] ++ books.jobs) := .refl _
    refine h.leave rfl (List.nil_sublist _) split ?_
    refine List.perm_iff_count.mpr fun job => ?_
    have whole := congrArg (List.count job) (List.take_append_drop count books.jobs)
    simp only [left, Ledger.after, Registry.drain, List.count_append] at whole ⊢
    omega
  | reap ask state =>
    have split := books.jobs.reapWith_perm ask state
    rw [List.append_assoc] at split
    refine h.leave rfl (Registry.reapWith_kept_sublist ask books.jobs state) split ?_
    refine List.perm_iff_count.mpr fun job => ?_
    simp only [left, Ledger.after, List.map_append, List.count_append]
    omega

private theorem balanced_ofUses (uses : List (RegistryUse σ)) : (ofUses uses).Balanced := by
  suffices h : ∀ books : Ledger, books.Balanced → (uses.foldl after books).Balanced from
    h {} ⟨.refl _, .refl _⟩
  intro books h
  induction uses generalizing books with
  | nil => exact h
  | cons use rest ih => exact ih (books.after use) (h.after use)

/-- A registry loses no job, invents none and keeps their order, whatever is done with it and
whatever is answered about the jobs. -/
theorem entries_accounted (uses : List (RegistryUse σ)) :
    let books := ofUses uses
    books.jobs.Sublist books.inserted ∧
    books.inserted.Perm (books.jobs ++ (books.removed ++ books.drained ++ books.discarded ++
      books.reaped.map (·.1) ++ books.dropped)) ∧
    (∀ pid, books.jobs.contains pid = false ∧ books.jobs.remove pid = (none, books.jobs) ∨
      books.jobs.contains pid = true ∧ ∃ newer job older, books.jobs = newer ++ job :: older ∧
        job.pid = pid ∧ (∀ other ∈ newer, other.pid ≠ pid) ∧
        books.jobs.remove pid = (some job, newer ++ older)) ∧
    (∀ (ask : Pid → σ → Answer × σ) (state : σ),
      let answered := books.jobs.answered ask state
      let reaped := books.jobs.reapWith ask state
      reaped.finished = answered.filterMap (fun (job, answer) => answer.status?.map (job, ·)) ∧
      reaped.kept = (answered.filter (·.2.keeps)).map (·.1) ∧
      (reaped.finished.map (·.1)).Sublist books.jobs ∧ reaped.kept.Sublist books.jobs ∧
      books.jobs.Perm (reaped.kept ++ reaped.finished.map (·.1) ++
        books.jobs.dropped ask state)) ∧
    ∀ (c : Children) newer job older ending, c.Numbered → books.jobs = newer ++ job :: older →
      (∀ other ∈ newer, other.pid ≠ job.pid) → c.state? job.pid = some (.ended ending) →
      ending.isNamed = true →
      (∀ kept ∈ (books.jobs.reap c).kept, kept.pid ≠ job.pid) ∧
      ((books.jobs.reap c).finished.filter (·.1.pid = job.pid) = [(job, ending.status)] ∨
        (∀ entry ∈ (books.jobs.reap c).finished, entry.1.pid ≠ job.pid) ∧
          ∃ wild ∈ newer, c.Covers wild.pid job.pid ∧
            (wild, ending.status) ∈ (books.jobs.reap c).finished) := by
  intro books
  have balanced : books.Balanced := balanced_ofUses uses
  refine ⟨balanced.ordered, balanced.accounted, ?_, ?_, ?_⟩
  · intro pid
    cases h : books.jobs.contains pid with
    | false => exact .inl ⟨rfl, Registry.remove_of_not_contains h⟩
    | true => exact .inr ⟨rfl, Registry.remove_of_contains h⟩
  · intro ask state
    refine ⟨Registry.reapWith_finished ask books.jobs state,
      Registry.reapWith_kept ask books.jobs state,
      Registry.reapWith_finished_sublist ask books.jobs state,
      Registry.reapWith_kept_sublist ask books.jobs state,
      Registry.reapWith_perm ask books.jobs state⟩
  · intro c newer job older ending hn split other hs hnamed
    rw [split]
    exact Registry.reap_of_ended hn hs hnamed other

def exitedChild : Children :=
  { next := 3
    all := [{ pid := 2, policy := .forChild true, group := 1, state := .ended (.exited 0) }] }

/-- Of two jobs of one child the more recent one is found out. -/
theorem entries_accounted_twice :
    let jobs := (ofUses ([.insert 2 "a", .insert 2 "b"] : List (RegistryUse Unit))).jobs
    exitedChild.Numbered ∧ exitedChild.state? 2 = some (.ended (.exited 0)) ∧
      (∀ kept ∈ (jobs.reap exitedChild).kept, kept.pid ≠ 2) ∧
      (jobs.reap exitedChild).finished.filter (·.1.pid = 2) = [(⟨2, "b"⟩, .exited 0)] := by
  have numbered : exitedChild.Numbered := by
    refine ⟨?_, ?_, ?_, ?_⟩ <;> simp [exitedChild, Children.pids]
  obtain ⟨-, -, -, -, duplicates⟩ :=
    entries_accounted ([.insert 2 "a", .insert 2 "b"] : List (RegistryUse Unit))
  obtain ⟨kept, finished⟩ := duplicates exitedChild [] ⟨2, "b"⟩ [⟨2, "a"⟩] (.exited 0) numbered rfl
    (by simp) rfl rfl
  refine ⟨numbered, rfl, kept, ?_⟩
  rcases finished with h | ⟨-, wild, hm, -⟩
  · exact h
  · cases hm

/-- The end of a child can be the answer about a job whose number stands for any child; then no job
of the child itself is found out. -/
theorem end_told_of_any_child :
    let jobs :=
      (ofUses ([.insert 2 "a", .insert 2 "b", .insert (-1) "c"] : List (RegistryUse Unit))).jobs
    exitedChild.state? 2 = some (.ended (.exited 0)) ∧ jobs.reap exitedChild =
      { finished := [(⟨-1, "c"⟩, .exited 0)], state := (jobs.reap exitedChild).state } ∧
      ¬ ∃ entry ∈ (jobs.reap exitedChild).finished, entry.1.pid = 2 := by
  refine ⟨rfl, rfl, ?_⟩
  decide

end Ledger

end JobShell
