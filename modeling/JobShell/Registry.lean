import JobShell.Children

/-!
The background jobs that the shell has not seen end, the most recent first.
-/

namespace JobShell

structure Job where
  pid : Pid
  command : String
  deriving DecidableEq, Repr

/-- The jobs of a shell, the most recent first. -/
abbrev Registry := List Job

namespace Registry

def insert (jobs : Registry) (pid : Pid) (command : String) : Registry :=
  { pid, command } :: jobs

def contains (jobs : Registry) (pid : Pid) : Bool :=
  jobs.any (·.pid == pid)

def remove (jobs : Registry) (pid : Pid) : Option Job × Registry :=
  (jobs.find? (·.pid == pid), jobs.eraseP (·.pid == pid))

def drain (jobs : Registry) (count : Nat) : List Job × Registry :=
  (jobs.take count, [])

structure Reaped (σ : Type) where
  /-- The jobs that have ended, with how they did. -/
  finished : List (Job × Status) := []
  kept : Registry := []
  /-- The state of whoever was asked. -/
  state : σ

/-- Asks about each job in turn, without waiting. A job that has ended is taken out with its
status, a job whose child is not known is dropped, every other job is kept. -/
def reapWith {σ : Type} (ask : Pid → σ → Except Fault WaitResult × σ) (jobs : Registry)
    (state : σ) : Reaped σ :=
  match jobs with
  | [] => { state }
  | job :: rest =>
    let (answer, state) := ask job.pid state
    let later := reapWith ask rest state
    match answer with
    | .ok result =>
      match Status.ofWait? result with
      | some status => { later with finished := (job, status) :: later.finished }
      | none => { later with kept := job :: later.kept }
    | .error .noChild => later
    | .error _ => { later with kept := job :: later.kept }

def reap (jobs : Registry) (children : Children) : Reaped Children :=
  reapWith (fun pid children => children.poll pid) jobs children

/-- What letting go of a child keeps, asking about the jobs keeps. -/
theorem reap_keeps {holds : Children → Prop} (keeps : ∀ c pid, holds c → holds (c.release pid))
    (jobs : Registry) {c : Children} (h : holds c) : holds (jobs.reap c).state := by
  unfold reap
  induction jobs generalizing c with
  | nil => exact h
  | cons job rest ih =>
    have later := ih (Children.poll_keeps keeps h job.pid)
    simp only [reapWith]
    split
    · split <;> exact later
    · exact later
    · exact later

@[simp] theorem insert_eq_cons (jobs : Registry) (pid : Pid) (command : String) :
    jobs.insert pid command = { pid, command } :: jobs := rfl

@[simp] theorem contains_insert (jobs : Registry) (pid other : Pid) (command : String) :
    (jobs.insert pid command).contains other = (pid == other || jobs.contains other) := rfl

theorem contains_iff {jobs : Registry} {pid : Pid} :
    jobs.contains pid = true ↔ ∃ job ∈ jobs, job.pid = pid := by
  simp [contains]

theorem remove_of_not_contains {jobs : Registry} {pid : Pid} (h : jobs.contains pid = false) :
    jobs.remove pid = (none, jobs) := by
  have hnone : ∀ job ∈ jobs, (job.pid == pid) = false := by
    simpa [contains] using h
  simp only [remove, Prod.mk.injEq]
  exact ⟨List.find?_eq_none.mpr (by simpa using hnone),
    List.eraseP_of_forall_not (by simpa using hnone)⟩

end Registry

end JobShell
