import JobShell.Proofs.Reading
import JobShell.Proofs.Typing

/-!
Where a session over given lines stops: at the first line that runs `exit`, at the first step that
fails, and nowhere else. So the steps that it consists of can be told from the lines alone, and a line
behind the first `exit` makes no difference to anything.
-/

namespace JobShell

/-- A report and then the line, for each line in order. -/
def SessionStep.turns (lines : List String) : List SessionStep :=
  lines.flatMap fun line => [.report, .line line]

namespace Session

/-- The steps that given lines are run in: a report and then the line, for each up to the first that
runs `exit`. If there is none, one more `exit` is run in the end. -/
def course (s : Session) : List String → List SessionStep
  | [] => [.line "exit"]
  | line :: rest => .report :: .line line :: if s.ExitLine line then [] else course s rest

/-- The steps are performed one after the other, and none of them fails. -/
def Succeed (programs : Programs) : Session → List SessionStep → Prop
  | _, [] => True
  | s, step :: rest =>
    (outcome (perform programs step) s).1 = none ∧ Succeed programs (s.after programs step) rest

/-- The session goes on, in the process with this number. -/
structure Continues (number : UInt32) (s : Session) : Prop where
  pid : s.pid = number
  going : s.shell.shouldExit = false

variable {programs : Programs} {number : UInt32} {s t u : Session} {line : String}
  {lines rest : List String} {step : SessionStep} {steps : List SessionStep} {e : CommandError}

/-! The steps that are to be done. -/

private theorem course_congr (same : t.pid = s.pid) (lines : List String) :
    t.course lines = s.course lines := by
  induction lines with
  | nil => rfl
  | cons line rest ih =>
    have exits : t.ExitLine line ↔ s.ExitLine line := by rw [ExitLine, ExitLine, same]
    simp only [course, exits, ih]

private theorem course_append_exit (others : ∀ line ∈ lines, ¬ s.ExitLine line)
    (exit : s.ExitLine line) (rest : List String) :
    s.course (lines ++ line :: rest) = SessionStep.turns (lines ++ [line]) := by
  induction lines with
  | nil => simp [course, exit, SessionStep.turns]
  | cons first lines ih =>
    obtain ⟨other, others⟩ := List.forall_mem_cons.mp others
    rw [List.cons_append, course, if_neg other, ih others]
    rfl

private theorem course_of_no_exit (others : ∀ line ∈ lines, ¬ s.ExitLine line) :
    s.course lines = SessionStep.turns lines ++ [.line "exit"] := by
  induction lines with
  | nil => rfl
  | cons line rest ih =>
    obtain ⟨other, others⟩ := List.forall_mem_cons.mp others
    rw [course, if_neg other, ih others]
    rfl

/-! Steps in a row, up to the first that fails. -/

private theorem outcome_forM_cons (programs : Programs) (s : Session) (step : SessionStep)
    (steps : List SessionStep) :
    outcome ((step :: steps).forM (perform programs)) s =
      match outcome (perform programs step) s with
      | (none, t) => outcome (steps.forM (perform programs)) t
      | (some e, t) => (some e, t) := by
  change outcome (do perform programs step; steps.forM (perform programs)) s = _
  rw [outcome, outcome, EStateM.run_bind]
  cases (perform programs step).run s <;> rfl

private theorem outcome_forM_eq_none :
    outcome (steps.forM (perform programs)) s = (none, t) ↔
      Succeed programs s steps ∧ s.afterAll programs steps = t := by
  induction steps generalizing s with
  | nil => exact ⟨fun h => ⟨trivial, congrArg Prod.snd h⟩, fun h => Prod.ext rfl h.2⟩
  | cons step rest ih =>
    rw [outcome_forM_cons, Succeed, afterAll_cons, after]
    generalize outcome (perform programs step) s = first
    obtain ⟨_ | e, u⟩ := first
    · exact ih.trans (by simp)
    · simp

private theorem outcome_forM_eq_some :
    outcome (steps.forM (perform programs)) s = (some e, t) ↔
      ∃ before step later, steps = before ++ step :: later ∧ Succeed programs s before ∧
        outcome (perform programs step) (s.afterAll programs before) = (some e, t) := by
  induction steps generalizing s with
  | nil =>
    refine ⟨fun h => ?_, ?_⟩
    · cases congrArg Prod.fst h
    · rintro ⟨before, step, later, split, -⟩
      simp at split
  | cons step rest ih =>
    rw [outcome_forM_cons]
    constructor
    · intro h
      split at h
      · next u first =>
        obtain ⟨before, failed, later, rfl, succeed, fails⟩ := ih.mp h
        have next : s.after programs step = u := congrArg Prod.snd first
        exact ⟨step :: before, failed, later, rfl, ⟨congrArg Prod.fst first, next ▸ succeed⟩,
          by rwa [afterAll_cons, next]⟩
      · next first => exact ⟨[], step, rest, rfl, trivial, first.trans h⟩
    · rintro ⟨before, failed, later, split, succeed, fails⟩
      cases before with
      | nil =>
        obtain ⟨rfl, rfl⟩ := List.cons.inj split
        rw [show outcome (perform programs step) s = (some e, t) from fails]
      | cons first before =>
        obtain ⟨rfl, rfl⟩ := List.cons.inj split
        have well : outcome (perform programs step) s = (none, s.after programs step) :=
          Prod.ext succeed.1 rfl
        rw [well]
        exact ih.mpr ⟨before, failed, later, rfl, succeed.2, fails⟩

/-! What a report or a line leaves as it is: only `exit` ends a session. -/

private theorem continues_respected : Respected programs (Both (Continues number)) := by
  have speech : SameSpeech (Both (Continues number)) :=
    both_speech (fun _ _ hs => ⟨hs.pid, hs.going⟩) fun _ _ hs => ⟨hs.pid, hs.going⟩
  exact both_respected speech (fun _ _ hs => ⟨hs.pid, hs.going⟩)
    (fun _ _ _ hs => ⟨hs.pid, hs.going⟩) (fun _ hs => ⟨hs.pid, hs.going⟩)
    (fun _ hs => ⟨hs.pid, hs.going⟩)
    (fun _ _ => both_startChild (fun _ hs => ⟨hs.pid, hs.going⟩)
      fun _ hs => ⟨(Machine.advance_pid _ _).trans hs.pid, hs.going⟩)
    fun _ => both_waitForeground fun _ hs => ⟨(Machine.await_pid _ _).trans hs.pid, hs.going⟩

private theorem continues_builtin (args : List String) {builtin : Builtin}
    (other : builtin ≠ .exit) :
    Coupled (Both (Continues number)) (builtin.run args) (builtin.run args) := by
  have respected : Respected (fun _ => .atOnce (.exited 0)) (Both (Continues number)) :=
    continues_respected
  have speech := respected.speech
  cases builtin with
  | exit => exact absurd rfl other
  | cd =>
    rintro _ s ⟨rfl, hs⟩
    obtain ⟨_, runs, cwd, dir, rfl⟩ := cd_run args s
    rw [Builtin.run, runs]
    exact .ok _ ⟨rfl, hs.pid, hs.going⟩
  | status =>
    exact both_get_bind fun s _ => (speech.writeLine _).bind fun _ => speech.flush.bind fun _ =>
      coupled_pure _

private theorem report_error (h : reportFinishedJobs.run s = .error e t) :
    ∃ text, e = .output text := by
  rw [report_run] at h
  rcases tell_run s.doneLines s.reaping with ⟨_, told, -⟩ | ⟨_, _, fails, told⟩
  · cases told.symm.trans h
  · cases fails.symm.trans h
    exact told.error_eq

private theorem line_error (h : (runLine programs line).run s = .error e t) :
    ∃ text, e = .output text := by
  have complains {message : String} {s : Session} (h : (complain message).run s = .error e t) :
      ∃ text, e = .output text := by
    rcases complain_run message s with ⟨_, told, -⟩ | ⟨_, _, fails, told⟩
    · cases told.symm.trans h
    · cases fails.symm.trans h
      exact told.error_eq
  cases parses : parse line s.pid with
  | error refused =>
    simp only [runLine, EStateM.run_bind, EStateM.run_get, parses] at h
    exact complains h
  | ok read =>
    cases read with
    | none =>
      simp only [runLine, EStateM.run_bind, EStateM.run_get, parses] at h
      cases h
    | some command =>
      rw [runLine_run parses] at h
      split at h
      · cases h
      · next failure u runs =>
        cases h
        cases executes : (execute programs command).run s with
        | ok status v => cases (executeOrComplain_ok executes).symm.trans runs
        | error cause v =>
          by_cases output : ∃ text, cause = .output text
          · obtain ⟨text, rfl⟩ := output
            cases (executeOrComplain_output executes).symm.trans runs
            exact ⟨text, rfl⟩
          · rw [executeOrComplain_error executes (fun text he => output ⟨text, he⟩),
              EStateM.run_bind] at runs
            split at runs
            · cases runs
            · next fails =>
              cases runs
              exact complains fails

private theorem ends_of_kept {holds : Session → Prop} {action : Action Unit}
    (kept : Alike (Both holds) (action.run s) (action.run s))
    (output : ∀ {e t}, action.run s = .error e t → ∃ text, e = .output text) :
    (∃ t, action.run s = .ok () t ∧ holds t) ∨
      ∃ text t, action.run s = .error (.output text) t ∧ holds t := by
  cases runs : action.run s with
  | ok _ t =>
    rw [runs] at kept
    cases kept with
    | ok _ related => exact .inl ⟨t, rfl, related.2⟩
  | error e t =>
    obtain ⟨text, rfl⟩ := output runs
    rw [runs] at kept
    cases kept with
    | error _ related => exact .inr ⟨text, t, rfl, related.2⟩

theorem Continues.after_report (hs : s.Continues number) :
    (∃ t, reportFinishedJobs.run s = .ok () t ∧ t.Continues number) ∨
      ∃ text t, reportFinishedJobs.run s = .error (.output text) t ∧ t.Continues number := by
  have respected : Respected (fun _ => .atOnce (.exited 0)) (Both (Continues number)) :=
    continues_respected
  exact ends_of_kept (respected.report s s ⟨rfl, hs⟩) report_error

theorem Continues.after_line (programs : Programs) (hs : s.Continues number)
    (other : ¬ s.ExitLine line) :
    (∃ t, (runLine programs line).run s = .ok () t ∧ t.Continues number) ∨
      ∃ text t, (runLine programs line).run s = .error (.output text) t ∧
        t.Continues number := by
  have respected : Respected programs (Both (Continues number)) := continues_respected
  refine ends_of_kept (respected.runLine ⟨rfl, hs⟩ line fun command parses => ?_) line_error
  refine respected.execute fun builtin name => continues_builtin command.args ?_
  rintro rfl
  exact other ⟨command, parses, argv_ne_nil_of_parse parses, name⟩

/-! The whole of the lines. -/

/-- To run lines is to perform the steps of their course, up to the first that fails. -/
theorem runLines_eq_course (programs : Programs) (hs : s.Continues number) (lines : List String) :
    outcome (runLines programs lines) s =
      outcome ((s.course lines).forM (perform programs)) s := by
  -- with `exit` the rest of the course is empty, without it the session continues to the rest
  induction lines generalizing s with
  | nil =>
    rw [course, outcome_forM_cons]
    change outcome (runLine programs "exit") s = match outcome (runLine programs "exit") s with
      | (none, t) => (none, t)
      | (some e, t) => (some e, t)
    split <;> assumption
  | cons line rest ih =>
    rw [course, outcome_forM_cons]
    rcases hs.after_report with ⟨t, reports, ht⟩ | ⟨text, t, reports, -⟩
    · have first : outcome (perform programs .report) s = (none, t) := by
        simp only [perform, outcome, reports]
      simp only [first, outcome_forM_cons]
      have exits : t.ExitLine line ↔ s.ExitLine line := by
        rw [ExitLine, ExitLine, ht.pid, hs.pid]
      by_cases exit : s.ExitLine line
      · have runs := exitLine_run programs (exits.mpr exit)
        simp only [outcome, runLines, perform, EStateM.run_bind, EStateM.run_get, reports, runs,
          if_pos exit]
        rfl
      · rcases ht.after_line programs (exit ∘ exits.mp) with
          ⟨u, runs, hu⟩ | ⟨text, u, runs, -⟩
        · have same : u.pid = s.pid := hu.pid.trans hs.pid.symm
          have later := ih hu
          rw [course_congr same] at later
          simp only [outcome, runLines, perform, EStateM.run_bind, EStateM.run_get, reports, runs,
            if_neg exit, hu.going, Bool.false_eq_true, if_false] at later ⊢
          exact later
        · simp only [outcome, runLines, perform, EStateM.run_bind, reports, runs]
    · simp only [outcome, runLines, perform, EStateM.run_bind, reports]

private theorem runLines_error (programs : Programs) (hs : s.Continues number) (lines : List String)
    (fails : outcome (runLines programs lines) s = (some e, t)) :
    (∃ text, e = .output text) ∧ t.shell.shouldExit = false := by
  induction lines generalizing s with
  | nil =>
    have runs := exitLine_run programs s.exitLine_exit
    simp only [outcome, runLines, runs] at fails
    cases congrArg Prod.fst fails
  | cons line rest ih =>
    simp only [outcome, runLines, EStateM.run_bind, EStateM.run_get] at fails ih
    rcases hs.after_report with ⟨v, reports, hv⟩ | ⟨text, v, reports, hv⟩
    · by_cases exit : v.ExitLine line
      · rw [reports] at fails
        simp only [exitLine_run programs exit] at fails
        cases congrArg Prod.fst fails
      · rcases hv.after_line programs exit with ⟨u, runs, hu⟩ | ⟨text, u, runs, hu⟩
        · simp only [reports, runs, hu.going, Bool.false_eq_true, if_false] at fails
          exact ih hu fails
        · simp only [reports, runs] at fails
          cases fails
          exact ⟨⟨text, rfl⟩, hu.going⟩
    · simp only [reports] at fails
      cases fails
      exact ⟨⟨text, rfl⟩, hv.going⟩

/-- With a writer that works lines never fail, whatever becomes of their commands. -/
theorem runLines_works (programs : Programs) (works : s.writer.Works) (lines : List String) :
    ∃ t, (runLines programs lines).run s = .ok () t := by
  induction lines generalizing s with
  | nil =>
    obtain ⟨t, runs, -⟩ := runLine_works programs "exit" works
    exact ⟨t, runs⟩
  | cons line rest ih =>
    obtain ⟨t, reports, works⟩ := report_works works
    obtain ⟨u, runs, works⟩ := runLine_works programs line works
    simp only [runLines, EStateM.run_bind, EStateM.run_get, reports, runs]
    split
    · exact ⟨u, rfl⟩
    · exact ih works

private theorem run_eq_of_outcome {first second : Action Unit}
    (same : outcome first s = outcome second s) : first.run s = second.run s := by
  unfold outcome at same
  generalize first.run s = ran, second.run s = ran' at same
  cases ran <;> cases ran' <;> cases same <;> rfl

/-- A session over lines is made of the steps of their course: a report and then the line for each, up
to the first line that runs `exit`, or all of them and one more `exit`. So lines behind the first
`exit` change nothing. The session succeeds if all of these steps do, and then it has performed every
one of them; otherwise the first that fails is the last one performed, and its error is that of the
session. Only a writer that fails can make a step fail, and the session has not exited then: neither a
line that is refused nor a command that fails or is killed ends it. -/
theorem lines_stop_at_exit_or_error (programs : Programs) (going : s.shell.shouldExit = false)
    (lines : List String) :
    (∀ before line rest, lines = before ++ line :: rest →
      (∀ other ∈ before, ¬ s.ExitLine other) → s.ExitLine line →
      (runLines programs lines).run s = (runLines programs (before ++ [line])).run s ∧
      s.course lines = SessionStep.turns (before ++ [line])) ∧
    ((∀ line ∈ lines, ¬ s.ExitLine line) →
      s.course lines = SessionStep.turns lines ++ [.line "exit"]) ∧
    (∀ t, outcome (runLines programs lines) s = (none, t) ↔
      Succeed programs s (s.course lines) ∧ s.afterAll programs (s.course lines) = t) ∧
    (∀ e t, outcome (runLines programs lines) s = (some e, t) ↔
      ∃ before step later, s.course lines = before ++ step :: later ∧
        Succeed programs s before ∧
        outcome (perform programs step) (s.afterAll programs before) = (some e, t)) ∧
    ∀ e t, outcome (runLines programs lines) s = (some e, t) →
      (∃ text, e = .output text) ∧ ¬ s.writer.Works ∧ t.shell.shouldExit = false := by
  have continues : s.Continues s.pid := ⟨rfl, going⟩
  have follows := runLines_eq_course programs continues
  refine ⟨fun before line rest split others exit => ?_, course_of_no_exit, fun t => ?_,
    fun e t => ?_, fun e t fails => ?_⟩
  · subst split
    have course := course_append_exit others exit
    refine ⟨run_eq_of_outcome ?_, course rest⟩
    rw [follows, follows, course rest, course []]
  · rw [follows]
    exact outcome_forM_eq_none
  · rw [follows]
    exact outcome_forM_eq_some
  · obtain ⟨output, goes⟩ := runLines_error programs continues lines fails
    refine ⟨output, fun works => ?_, goes⟩
    obtain ⟨u, runs⟩ := runLines_works programs works lines
    rw [outcome, runs] at fails
    cases congrArg Prod.fst fails

/-- A line that is refused does not stop the session, an `exit` does, whatever its words are. A writer
that fails when the second line is to be told stops it too, and then there is no `exit`. -/
theorem lines_stop_at_exit_or_error_early :
    let programs : Programs := fun _ => .atOnce (.exited 0)
    let lines := ["x <", "exit now &", "status"]
    let broken : Nat → WriterOperation → Option String := fun number _ =>
      if number = 4 then some "broken pipe" else none
    let s := bare.after programs (.writer broken)
    (runLines programs lines).run bare = (runLines programs ["x <", "exit now &"]).run bare ∧
      bare.course lines =
        [.report, .line "x <", .report, .line "exit now &"] ∧
      (outcome (runLines programs lines) bare).2.writer.written =
        ["smallsh: missing file name after '<'\n"] ∧
      outcome (runLines programs ["status", "status"]) s =
        (some (.output "broken pipe"), (outcome (runLines programs ["status", "status"]) s).2) ∧
      (outcome (runLines programs ["status", "status"]) s).2.shell.shouldExit = false := by
  intro programs lines broken s
  obtain ⟨stops, -⟩ := lines_stop_at_exit_or_error (s := bare) programs rfl lines
  obtain ⟨same, course⟩ := stops ["x <"] "exit now &" ["status"] rfl (by decide +kernel)
    (by decide +kernel)
  have fails : outcome (runLines programs ["status", "status"]) s =
      (some (.output "broken pipe"), (outcome (runLines programs ["status", "status"]) s).2) :=
    Prod.ext (by decide +kernel) rfl
  have goes := (lines_stop_at_exit_or_error (s := s) programs rfl ["status", "status"]).2.2.2.2 _ _
    fails
  exact ⟨same, course, by decide +kernel, fails, goes.2.2⟩

end Session

end JobShell
