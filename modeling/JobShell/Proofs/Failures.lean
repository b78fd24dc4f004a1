import JobShell.Proofs.Verdicts

/-!
What a line leaves behind that ends in an error. Whatever the writer fails at, the shell stays as it
was, except for a background job that was started and could not be announced.
-/

namespace JobShell.Session

variable {programs : Programs} {s s' : Session} {command : Command} {e : CommandError}

/-- The line started a background child, and the only thing that failed was to announce it. -/
def Unannounced (s : Session) (line : String) (e : CommandError) (s' : Session) (job : Job) :
    Prop :=
  ∃ command child between, parse line s.pid = .ok (some command) ∧ s.Launches command ∧
    s.Started command.text child between ∧ child.state.isHeld = true ∧
    job = ⟨child.pid, command.text⟩ ∧
    (between.listing child.pid command.text).Told [startedLine child.pid] (some e) s'

theorem Unannounced.listed {line : String} {job : Job} (h : s.Unannounced line e s' job) :
    s'.shell = { s.shell with jobs := job :: s.shell.jobs } ∧ s'.machine.cwd = s.machine.cwd := by
  obtain ⟨command, child, between, _, _, started, _, rfl, told⟩ := h
  refine ⟨?_, told.cwd.trans started.cwd⟩
  rw [told.shell, listing, started.shell]
  rfl

/-- A command that fails leaves the shell as it was, or has put on record a background child that it
could not announce. -/
private theorem Executed.unchanged_of_error (h : s.Executed command (.error e) s') :
    (s'.shell = s.shell ∧ s'.machine.cwd = s.machine.cwd) ∨ (∃ text, e = .output text) ∧
      ∀ line, parse line s.pid = .ok (some command) → ∃ job, s.Unannounced line e s' job := by
  cases h with
  | unreported _ _ told => exact .inl ⟨told.shell, told.cwd⟩
  | nul => exact .inl ⟨rfl, rfl⟩
  | unflushed _ _ told | unspawned _ _ told => exact .inl ⟨told.shell, told.cwd⟩
  | unanswered _ _ _ started => exact .inl ⟨started.shell, started.cwd⟩
  | unannounced external noNul background started held told granted =>
    exact .inr ⟨told.error_eq, fun line parses => ⟨_, command, _, _, parses,
      ⟨external, noNul, background, granted⟩, started, held, rfl, told⟩⟩

/-- A line that ends in an error leaves the shell as it was, or has put on record a background child
that it could not announce. -/
private theorem Stepped.unchanged_of_error {line : String}
    (h : s.Stepped (.line line) (some e) s') :
    (s'.shell = s.shell ∧ s'.machine.cwd = s.machine.cwd) ∨
      ∃ job, s.Unannounced line e s' job := by
  cases h with
  | refused parses told => exact .inl ⟨told.shell, told.cwd⟩
  | broke parses executed =>
    rcases executed.unchanged_of_error with same | ⟨_, unannounced⟩
    · exact .inl same
    · exact .inr (unannounced line parses)
  | untold parses executed other told =>
    rcases executed.unchanged_of_error with ⟨shell, cwd⟩ | ⟨⟨text, rfl⟩, _⟩
    · exact .inl ⟨told.shell.trans shell, told.cwd.trans cwd⟩
    · exact absurd rfl (other text)

private theorem execute_unflushed (programs : Programs) (external : command.IsExternal)
    (noNul : hasNul command.argv = false) {text : String}
    (fails : s.writer.fault s.writer.operations .flush = some text) :
    (execute programs command).run s =
      .error (.output text) { s with writer.operations := s.writer.operations + 1 } := by
  simp only [execute, runExternal, runChild, flush, operate, EStateM.run_bind, EStateM.run_get,
    EStateM.run_set, external.words, external.name, noNul, fails, if_false, Bool.false_eq_true]
  rfl

private theorem hasNul_iff {argv : List String} :
    hasNul argv = true ↔ ∃ word ∈ argv, '\x00' ∈ word.toList := by
  simp [hasNul]

private theorem execute_nul_iff (programs : Programs) (hn : s.machine.children.Numbered)
    {name : String} : (execute programs command).run s = .error (.nulInArgument name) s' ↔
      command.IsExternal ∧ hasNul command.argv = true ∧ name = command.name ∧ s' = s := by
  constructor
  · intro hrun
    rcases execute_run programs command hn with ⟨status, t, hok, _⟩ | ⟨e, t, herror, executed⟩
    · simp [hok] at hrun
    · obtain ⟨rfl, rfl⟩ : e = .nulInArgument name ∧ t = s' := by simpa [herror] using hrun
      have notOutput {lines : List String} {r : Session}
          (told : r.Told lines (some (.nulInArgument name)) t) : False := by
        obtain ⟨text, h⟩ := told.error_eq
        cases h
      cases executed with
      | unreported _ _ told => exact (notOutput told).elim
      | nul external hasNul => exact ⟨external, hasNul, rfl, rfl⟩
      | unflushed _ _ told => exact (notOutput told).elim
      | unannounced _ _ _ _ _ told => exact (notOutput told).elim
  · rintro ⟨external, hasNul, rfl, rfl⟩
    simp only [execute, runExternal, EStateM.run_bind, EStateM.run_get, external.words,
      external.name, hasNul, if_true, if_false]
    rfl

/-- An error that is not one of output counts as failure once it is told, and else leaves the status
as it was. -/
private theorem status_of_error (programs : Programs) (hn : s.machine.children.Numbered)
    {line : String} {between : Session} (parses : parse line s.pid = .ok (some command))
    (hrun : (execute programs command).run s = .error e between)
    (other : ∀ text, e ≠ .output text) :
    match (complain e.message).run between with
    | .ok _ _ => (outcome (runLine programs line) s).1 = none ∧
        (outcome (runLine programs line) s).2.shell.status = .exited 1
    | .error error _ => (outcome (runLine programs line) s).1 = some error ∧
        (outcome (runLine programs line) s).2.shell.status = s.shell.status := by
  have same : between.shell.status = s.shell.status := by
    rcases execute_run programs command hn with ⟨status, t, hok, _⟩ | ⟨e', t, herror, executed⟩
    · simp [hok] at hrun
    · obtain ⟨rfl, rfl⟩ : e' = e ∧ t = between := by simpa [herror] using hrun
      exact executed.status_of_error
  have line_run : (runLine programs line).run s = _ := runLine_run parses
  rw [executeOrComplain_error hrun other, EStateM.run_bind] at line_run
  rcases complain_run e.message between with ⟨t, htold, told⟩ | ⟨error, t, htold, told⟩
  · rw [htold] at line_run ⊢
    have hout : outcome (runLine programs line) s = (none, t.remembering .failure) := by
      rw [outcome, line_run]
      rfl
    rw [hout]
    exact ⟨rfl, rfl⟩
  · rw [htold] at line_run ⊢
    have hout : outcome (runLine programs line) s = (some error, t) := by
      rw [outcome, line_run]
    rw [hout]
    exact ⟨rfl, by rw [told.shell, same]⟩

/-- A line that ends in an error leaves the shell and the directory of its process as they were, but
for a job that is put on record exactly if a background child was started and only announcing it
failed. No child is started if the flush before it fails. A program is refused for its words exactly
if one of them contains NUL, and then nothing at all is done. Any other error makes the status a
failure if it can be told, and leaves it as it was if not. -/
theorem failed_line_consistent (programs : Programs) (hn : s.machine.children.Numbered) :
    (∀ line e s', outcome (runLine programs line) s = (some e, s') →
      s'.shell = { s.shell with jobs := s'.shell.jobs } ∧ s'.machine.cwd = s.machine.cwd ∧
      (s'.shell.jobs = s.shell.jobs ∨ ∃ job, s'.shell.jobs = job :: s.shell.jobs) ∧
      ∀ job, s'.shell.jobs = job :: s.shell.jobs ↔ s.Unannounced line e s' job) ∧
    (∀ command text, command.IsExternal → hasNul command.argv = false →
      s.writer.fault s.writer.operations .flush = some text →
      (execute programs command).run s =
        .error (.output text) { s with writer.operations := s.writer.operations + 1 }) ∧
    (∀ command name s', (execute programs command).run s = .error (.nulInArgument name) s' ↔
      (Builtin.ofName? command.name = none ∧ command.argv ≠ [] ∧
        ∃ word ∈ command.argv, '\x00' ∈ word.toList) ∧ name = command.name ∧ s' = s) ∧
    ∀ line command e between, parse line s.pid = .ok (some command) →
      (execute programs command).run s = .error e between → (∀ text, e ≠ .output text) →
      match (complain e.message).run between with
      | .ok _ _ => (outcome (runLine programs line) s).1 = none ∧
          (outcome (runLine programs line) s).2.shell.status = .exited 1
      | .error error _ => (outcome (runLine programs line) s).1 = some error ∧
          (outcome (runLine programs line) s).2.shell.status = s.shell.status := by
  refine ⟨fun line e s' hout => ?_, fun command text external noNul fails => ?_,
    fun command name s' => ?_, fun line command e between parses hrun other => ?_⟩
  · have isSingle : (SessionStep.line line).IsSingle := trivial
    obtain ⟨error, t, ht, stepped⟩ := step_stepped programs isSingle hn
    obtain ⟨rfl, rfl⟩ : error = some e ∧ t = s' := by simpa [perform, hout] using ht.symm
    have listed {job : Job} (h : s.Unannounced line e t job) :
        t.shell.jobs = job :: s.shell.jobs := by rw [h.listed.1]
    rcases stepped.unchanged_of_error with ⟨shell, cwd⟩ | ⟨job, unannounced⟩
    · rw [shell]
      refine ⟨rfl, cwd, .inl rfl, fun job => ⟨fun h => ?_, fun h => ?_⟩⟩
      · simp at h
      · exact shell ▸ listed h
    · obtain ⟨shell, cwd⟩ := unannounced.listed
      refine ⟨by rw [shell], cwd, .inr ⟨job, listed unannounced⟩,
        fun other => ⟨fun h => ?_, listed⟩⟩
      obtain rfl : other = job := by simpa [listed unannounced] using h.symm
      exact unannounced
  · exact execute_unflushed programs external noNul fails
  · rw [execute_nul_iff programs hn, hasNul_iff]
    constructor
    · rintro ⟨⟨words, builtin⟩, nul, rest⟩
      exact ⟨⟨builtin, words, nul⟩, rest⟩
    · rintro ⟨⟨builtin, words, nul⟩, rest⟩
      exact ⟨⟨words, builtin⟩, nul, rest⟩
  · exact status_of_error programs hn parses hrun other

/-- A background child that could not be announced is on record after the line has failed. -/
theorem failed_line_consistent_unannounced :
    let programs : Programs := fun _ => .atOnce (.exited 0)
    let broken : Nat → WriterOperation → Option String := fun number _ =>
      if number = 1 then some "broken pipe" else none
    let s := bare.after programs (.writer broken)
    let line := "x < \x00 &"
    s.machine.children.Numbered ∧
      (outcome (runLine programs line) s).1 = some (.output "broken pipe") ∧
      s.Unannounced line (.output "broken pipe") (outcome (runLine programs line) s).2
        ⟨3, "x < \x00 &"⟩ := by
  intro programs broken s line
  have numbered : s.machine.children.Numbered :=
    (afterAll_tracked programs bare_fresh.tracked [.writer broken]).numbered
  have failed : (outcome (runLine programs line) s).1 = some (.output "broken pipe") := by
    decide +kernel
  have listed : (outcome (runLine programs line) s).2.shell.jobs =
      ⟨3, "x < \x00 &"⟩ :: s.shell.jobs := by decide +kernel
  obtain ⟨_, _, _, iff⟩ :=
    (failed_line_consistent programs numbered).1 line _ _ (Prod.ext failed rfl)
  exact ⟨numbered, failed, (iff _).mp listed⟩

end JobShell.Session
