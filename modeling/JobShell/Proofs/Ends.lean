import JobShell.Proofs.Accounts
import JobShell.Proofs.Records
import JobShell.Proofs.Verdicts

/-!
What the shell learns of the end of a child. A wait tells of every end but one: when a signal
without a name has killed the child, the wait fails although the system has let go of the child.
-/

namespace JobShell.Session

variable {programs : Programs} {s s' : Session} {command : Command} {pid : Pid}

private theorem execute_foreground (programs : Programs) (hn : s.machine.children.Numbered)
    (external : command.IsExternal) (noNul : hasNul command.argv = false)
    (flushes : s.writer.fault s.writer.operations .flush = none)
    (granted : s.refusal s.forks = none)
    (foreground : (command.background && s.shell.mode.allowsBackground) = false) :
    ∃ (ending : Ending) (s' : Session),
      s'.machine.children.state? s.machine.children.next = some (.gone ending) ∧
      (execute programs command).run s =
        if ending.isNamed then .ok ending.verdict s'
        else .error (.wait s.machine.children.next .invalidArgument) s' := by
  have waited {result : Except CommandError Status} {t : Session}
      (executed : s.Executed command result t) : ∃ ending,
      t.machine.children.state? s.machine.children.next = some (.gone ending) ∧
        result = if ending.isNamed then .ok ending.verdict
          else .error (.wait s.machine.children.next .invalidArgument) := by
    obtain ⟨-, child, ending, started, gone, hresult⟩ | ⟨background, -⟩ :=
      executed.of_external external noNul flushes granted
    · refine ⟨ending, child_gone hn started gone, hresult.trans ?_⟩
      rw [← started.children.number]
      cases named : ending.isNamed with
      | true =>
        have answers : endAnswer ending = .ok ending := by rw [endAnswer_eq, if_pos named]
        simp only [answers, if_true, collapsed_answer answers]
      | false => simp [endAnswer_eq, named]
    · simp [foreground] at background
  rcases execute_run programs command hn with ⟨status, t, hrun, executed⟩ |
    ⟨e, t, hrun, executed⟩
  · obtain ⟨ending, gone, hresult⟩ := waited executed
    refine ⟨ending, t, gone, hrun.trans ?_⟩
    split at hresult
    · next named => rw [if_pos named, Except.ok.inj hresult]
    · cases hresult
  · obtain ⟨ending, gone, hresult⟩ := waited executed
    refine ⟨ending, t, gone, hrun.trans ?_⟩
    split at hresult
    · cases hresult
    · next unnamed => rw [if_neg unnamed, Except.error.inj hresult]

private theorem afterCommand_background (programs : Programs) (hs : s.Accounted)
    (external : command.IsExternal) (noNul : hasNul command.argv = false)
    (flushes : s.writer.fault s.writer.operations .flush = none)
    (granted : s.refusal s.forks = none)
    (background : (command.background && s.shell.mode.allowsBackground) = true) :
    let s' := s.afterCommand programs command
    s'.Accounted ∧ ⟨s.machine.children.next, command.text⟩ ∈ s'.shell.jobs ∧
      ∃ state, s'.machine.children.state? s.machine.children.next = some state ∧
        state.isHeld = true := by
  intro s'
  obtain ⟨result, executed⟩ := afterCommand_executed programs command hs.numbered
  refine ⟨executed.affects.accounted hs, ?_⟩
  obtain ⟨foreground, -⟩ | ⟨-, child, between, error, started, held, told⟩ :=
    executed.of_external external noNul flushes granted
  · simp [background] at foreground
  · rw [← started.children.number]
    refine ⟨?_, child.state, ?_, held⟩
    · rw [told.shell]
      exact List.mem_cons_self
    · rw [told.children]
      exact started.children.state?_self hs.numbered

private theorem Accounted.reap_child (hs : s.Accounted) {state : ChildState}
    (known : s.machine.children.state? pid = some state) :
    let reaped := s.shell.jobs.reap s.machine.children
    reaped.finished.filter (·.1.pid == pid) = (s.shell.jobs.filter (·.pid == pid)).filterMap
        (fun job => state.reported?.map (job, ·)) ∧
      reaped.kept.filter (·.pid == pid) =
        if state.stays then s.shell.jobs.filter (·.pid == pid) else [] := by
  obtain ⟨hfinished, hkept⟩ := Registry.reap_eq hs.numbered hs.pos hs.distinct
  have report : s.machine.children.report? pid = state.reported? := by
    rw [Children.report?, known, Option.bind_some]
  have keeps : s.machine.children.keeps pid = state.stays := by
    rw [Children.keeps, known, Option.any_some]
  constructor
  · rw [hfinished, List.filter_filterMap, List.filterMap_filter]
    refine List.filterMap_congr fun job _ => ?_
    by_cases hp : job.pid = pid
    · subst hp
      rw [report]
      cases state.reported? <;> simp
    · cases s.machine.children.report? job.pid <;> simp [hp]
  · rw [hkept, List.filter_filter, ← keeps]
    by_cases h : s.machine.children.keeps pid = true
    · rw [if_pos h]
      refine List.filter_congr fun job _ => ?_
      by_cases hp : job.pid = pid <;> simp [hp, h]
    · rw [if_neg h, List.filter_eq_nil_iff]
      rintro job _ both
      simp only [Bool.and_eq_true, beq_iff_eq] at both
      exact h (both.1 ▸ both.2)

/-- The child of a job that nothing took off record has ended and is still held, and its job stands
there with the text it was started from. -/
private theorem ended_afterAll (programs : Programs) (hs : s.Accounted) {job : Job}
    (hj : job ∈ s.shell.jobs) {state : ChildState}
    (known : s.machine.children.state? job.pid = some state) (held : state.isHeld = true)
    {steps : List SessionStep} (single : ∀ step ∈ steps, step.IsSingle)
    (notExit : ∀ before line after, steps = before ++ .line line :: after →
      ¬ (s.afterAll programs before).ExitLine line)
    (unended : ∀ before after, steps = before ++ .report :: after →
      (s.afterAll programs before).ending? job.pid = none) {ending : Ending}
    (hend : (s.afterAll programs steps).ending? job.pid = some ending) :
    job ∈ (s.afterAll programs steps).shell.jobs ∧
      (s.afterAll programs steps).machine.children.state? job.pid = some (.ended ending) := by
  constructor
  · obtain ⟨other, ho, hpid⟩ := onRecord_afterAll_of_unended programs single hs.toTracked
      ⟨job, hj, rfl⟩ notExit unended
    have text := (hs.afterAll programs steps).started other ho
    rw [hpid, texts_afterAll programs single hs.toTracked (hs.lt_next hj),
      hs.started job hj] at text
    obtain rfl : other = job := by
      cases job
      cases other
      simp_all
    exact ho
  · obtain ⟨state', known', held'⟩ :=
      held_afterAll_of_unended programs single hs.toTracked known held unended
    rw [ending?, known'] at hend
    rw [known']
    cases state' <;> simp_all [ChildState.ending?, ChildState.isHeld]

/-- The shell learns how a child ended, and learns it truly, exactly if a wait can tell. A
foreground command comes to the collapsed status of its child, and otherwise fails. A background job
is taken off record by the first report after its end, with the end of its child; if a wait cannot
tell, that report keeps it and finds nothing out, and the next one drops it without finding out
more. -/
theorem end_seen_if_named (programs : Programs) (fresh : s.Fresh) (earlier : List SessionStep)
    (external : command.IsExternal) (noNul : hasNul command.argv = false) :
    let s' := s.afterAll programs earlier
    let pid := s'.machine.children.next
    s'.writer.fault s'.writer.operations .flush = none → s'.refusal s'.forks = none →
    ((command.background && s'.shell.mode.allowsBackground) = false →
      ∃ (ending : Ending) (t : Session), t.machine.children.state? pid = some (.gone ending) ∧
        (execute programs command).run s' =
          if ending.isNamed then .ok ending.verdict t else .error (.wait pid .invalidArgument) t) ∧
    ((command.background && s'.shell.mode.allowsBackground) = true →
      ∀ later : List SessionStep, (∀ step ∈ later, step.IsSingle) →
        let t := s'.afterCommand programs command
        (∀ before line after, later = before ++ .line line :: after →
          ¬ (t.afterAll programs before).ExitLine line) →
        (∀ before after, later = before ++ .report :: after →
          (t.afterAll programs before).ending? pid = none) →
        let u := t.afterAll programs later
        ∀ ending, u.ending? pid = some ending →
          let job : Job := ⟨pid, command.text⟩
          let reaped := u.shell.jobs.reap u.machine.children
          reaped.finished.filter (·.1.pid == pid) =
            (if ending.isNamed then [(job, ending.status)] else []) ∧
          reaped.kept.filter (·.pid == pid) = (if ending.isNamed then [] else [job]) ∧
          ∀ more : List SessionStep, (∀ step ∈ more, step.IsSingle) →
            let v := (u.after programs .report).afterAll programs more
            let again := v.shell.jobs.reap v.machine.children
            again.finished.filter (·.1.pid == pid) = [] ∧
              again.kept.filter (·.pid == pid) = []) := by
  intro s' pid flushes granted
  have hs' : s'.Accounted := afterAll_accounted programs fresh earlier
  refine ⟨execute_foreground programs hs'.numbered external noNul flushes granted, ?_⟩
  intro background later single t notExit unended u ending hend job reaped
  obtain ⟨ht, hjob, state, known, held⟩ :=
    afterCommand_background programs hs' external noNul flushes granted background
  obtain ⟨hu, hstate⟩ := ended_afterAll programs ht hjob known held single notExit unended hend
  have accounted : u.Accounted := ht.afterAll programs later
  obtain ⟨hfinished, hkept⟩ := accounted.reap_child hstate
  have alone : u.shell.jobs.filter (·.pid == pid) = [job] := accounted.filter_jobs hu
  rw [alone] at hfinished hkept
  refine ⟨hfinished.trans ?_, hkept.trans ?_, fun more hmore => ?_⟩
  · cases named : ending.isNamed <;> simp [ChildState.reported?, named]
  · cases named : ending.isNamed <;> simp [ChildState.stays, named]
  · have isSingle : SessionStep.report.IsSingle := trivial
    have touches := after_touches programs isSingle accounted.toTracked
    have gone := touches.gone_of_report accounted.toTracked ⟨job, hu, rfl⟩ hstate
    have gone' := gone_afterAll programs hmore (touches.tracked accounted.toTracked) gone
    have accounted' := (touches.accounted accounted).afterAll programs more
    obtain ⟨hfinished', hkept'⟩ := accounted'.reap_child gone'
    exact ⟨hfinished'.trans (by simp [ChildState.reported?]),
      hkept'.trans (by simp [ChildState.stays])⟩

/-- A background job whose child could not open its input is reported with the code of the child,
and is not on record afterwards. -/
theorem end_seen_if_named_unopened :
    let programs : Programs := fun _ => .atOnce (.exited 0)
    let command : Command :=
      { argv := ["x"], input := some "\x00", background := true, text := "x < \x00 &" }
    command.IsExternal ∧ hasNul command.argv = false ∧
      bare.writer.fault bare.writer.operations .flush = none ∧
      let s := bare.afterCommand programs command
      s.ending? 3 = some (.exited 1) ∧
        let reaped := s.shell.jobs.reap s.machine.children
        reaped.finished.filter (·.1.pid == 3) = [(⟨3, "x < \x00 &"⟩, .exited 1)] ∧
          reaped.kept.filter (·.pid == 3) = [] := by
  intro programs command
  have external : command.IsExternal := ⟨by simp [command], by decide +kernel⟩
  have noNul : hasNul command.argv = false := by decide +kernel
  have ended : (bare.afterCommand programs command).ending? 3 = some (.exited 1) := by
    decide +kernel
  have seen := (end_seen_if_named programs bare_fresh [] external noNul rfl rfl).2 (by decide +kernel)
    [] (by simp) (by simp) (by simp) _ ended
  exact ⟨external, noNul, rfl, ended, seen.1, seen.2.1⟩

/-- If signal 34 kills the child, the foreground command fails, and the job of a background child is
kept by the first report and dropped by the second, neither of which finds out about its end. -/
theorem end_unseen_realtime :
    let realtime : Ending := .killed { number := 34 }
    (match (execute (fun _ => .atOnce realtime) { argv := ["/x"], text := "/x" }).run equipped with
      | .ok _ _ => False
      | .error e s => e = .wait 3 .invalidArgument ∧ s.ending? 3 = some realtime) ∧
    let child : Child := { pid := 3, policy := .forChild true, group := 1, state := .ended realtime }
    let first := Registry.reap [⟨3, "/x &"⟩] { next := 4, all := [child] }
    first.finished = [] ∧ first.kept = [⟨3, "/x &"⟩] ∧
      let second := Registry.reap first.kept first.state
      second.finished = [] ∧ second.kept = [] := by
  intro realtime
  have failed : (match (execute (fun _ => .atOnce realtime) { argv := ["/x"], text := "/x" }).run
      equipped with
    | .ok _ _ => none
    | .error e s => some (e, s.ending? 3)) = some (.wait 3 .invalidArgument, some realtime) := by
    decide +kernel
  refine ⟨?_, by decide +kernel⟩
  split
  · next run => cases run ▸ failed
  · next run =>
    rw [run] at failed
    exact Prod.mk.inj (Option.some.inj failed)

end JobShell.Session
