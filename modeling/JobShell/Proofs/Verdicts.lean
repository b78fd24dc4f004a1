import JobShell.Proofs.Tracking
import JobShell.Proofs.Reading

/-!
The status that the shell remembers is the verdict on the command that was judged last. A verdict
comes from a line that goes well and names a program which runs in the foreground, cannot be handed
its words or gets no process; nothing else that happens touches the status.
-/

namespace JobShell

/-- The verdict on a foreground child: every exit code other than 0 counts as 1, and so does a
signal that a wait cannot tell of. -/
def Ending.verdict : Ending → Status
  | .exited code => if code = 0 then .exited 0 else .exited 1
  | .killed signal =>
    if signal.number ≤ Signal.lastNamed then .signaled signal.number else .exited 1

theorem collapsed_answer {ending answer : Ending} (h : endAnswer ending = .ok answer) :
    answer.status.collapsed = ending.verdict := by
  rw [endAnswer_eq] at h
  split at h
  · next named =>
    obtain rfl := Except.ok.inj h
    cases ending with
    | exited code =>
      by_cases hc : code = 0
      · subst hc
        rfl
      · have hne : code.toNat ≠ 0 := fun h => hc (UInt8.toNat_inj.mp h)
        simp [Ending.status, Status.collapsed, Ending.verdict, hc, hne, Status.failure]
    | killed signal =>
      have hle : signal.number ≤ Signal.lastNamed := by
        simpa [Ending.isNamed, Signal.isNamed] using named
      simp [Ending.status, Status.collapsed, Ending.verdict, hle]
  · cases h

private theorem verdict_of_fault {ending : Ending} {fault : Fault}
    (h : endAnswer ending = .error fault) : ending.verdict = .failure := by
  rw [endAnswer_eq] at h
  split at h
  · cases h
  · next unnamed =>
    obtain ⟨signal, rfl, hlt⟩ := Ending.isNamed_eq_false.mp (by simpa using unnamed)
    simp [Ending.verdict, Nat.not_le.mpr hlt, Status.failure]

namespace Session

/-- The verdict on a command, if there is one, given the states before it and after it. The child of
a command gets the next number. -/
def commandVerdict? (s s' : Session) (command : Command) : Option Status :=
  if (Builtin.ofName? command.name).isSome then none
  else if hasNul command.argv || (s.refusal s.forks).isSome then some (.exited 1)
  else if command.background && s.shell.mode.allowsBackground then none
  else
    match s'.machine.children.state? s.machine.children.next with
    | some (.gone ending) => some ending.verdict
    | _ => none

/-- The verdict of a step, given its error and the state after it. Only a line that goes well has
one. -/
def verdictAfter? (s : Session) (step : SessionStep) (error : Option CommandError) (s' : Session) :
    Option Status :=
  match step, error with
  | .line line, none =>
    match parse line s.pid with
    | .ok (some command) => s.commandVerdict? s' command
    | _ => none
  | _, _ => none

/-- The verdict of a step, if it has one. -/
def verdict? (programs : Programs) (s : Session) (step : SessionStep) : Option Status :=
  s.verdictAfter? step (outcome (perform programs step) s).1 (outcome (perform programs step) s).2

def verdicts (programs : Programs) (s : Session) : List SessionStep → List Status
  | [] => []
  | step :: rest =>
    (s.verdict? programs step).toList ++ verdicts programs (s.after programs step) rest

/-- The command is a program that the shell waits for, that cannot be handed its words or that the
system refuses a process. -/
def Judges (s : Session) (command : Command) : Prop :=
  Builtin.ofName? command.name = none ∧
    (hasNul command.argv = true ∨ (s.refusal s.forks).isSome = true ∨
      command.background = false ∨ s.shell.mode = .foregroundOnly)

variable {s s' between : Session} {command : Command} {line : String}

private theorem foreground_iff : (command.background && s.shell.mode.allowsBackground) = false ↔
    command.background = false ∨ s.shell.mode = .foregroundOnly := by
  cases command.background <;> cases s.shell.mode <;> simp [Mode.allowsBackground]

/-- A command that fails leaves the status as it was. -/
theorem Executed.status_of_error {e : CommandError}
    (h : s.Executed command (.error e) s') : s'.shell.status = s.shell.status := by
  cases h with
  | unreported words name told => rw [told.shell]
  | nul => rfl
  | unflushed external noNul told => rw [told.shell]
  | unspawned external noNul told => rw [forked, told.shell]
  | unanswered external noNul foreground started => rw [started.shell]
  | unannounced external noNul background started held told =>
    rw [told.shell, listing, started.shell]

theorem child_gone {child : Child} {ending : Ending} (hn : s.machine.children.Numbered)
    (started : s.Started command.text child s') (gone : child.state = .gone ending) :
    s'.machine.children.state? s.machine.children.next = some (.gone ending) := by
  rw [← started.children.number, started.children.state?_self hn, gone]

private theorem Executed.verdict_of_ok {status : Status} (hn : s.machine.children.Numbered)
    (h : s.Executed command (.ok status) s') (words : command.argv ≠ []) :
    status = (s.commandVerdict? s' command).getD s.shell.status ∧
      ((s.commandVerdict? s' command).isSome = true ↔ s.Judges command) := by
  have builtin {name : Builtin} (h : Builtin.ofName? command.name = some name) :
      s.commandVerdict? s' command = none ∧ ¬ s.Judges command := by
    simp [commandVerdict?, Judges, h]
  cases h with
  | noWords none => exact absurd none words
  | exited isExit => simp [builtin isExit.name]
  | moved _ name => simp [builtin name]
  | reported _ name => simp [builtin name]
  | ended external noNul foreground started gone answers granted =>
    have hverdict := collapsed_answer answers
    have hgone := child_gone hn started gone
    simp [commandVerdict?, Judges, external.name, noNul, granted, foreground, hgone, hverdict,
      foreground_iff.mp foreground]
  | announced external noNul background started held told granted =>
    have notForeground : ¬ (command.background = false ∨ s.shell.mode = .foregroundOnly) := by
      rw [← foreground_iff, background]
      simp
    simp [commandVerdict?, Judges, external.name, noNul, granted, background, notForeground]

private theorem Executed.verdict_of_error {e : CommandError} (hn : s.machine.children.Numbered)
    (h : s.Executed command (.error e) between) (other : ∀ text, e ≠ .output text)
    (same : s'.machine.children = between.machine.children) :
    s.commandVerdict? s' command = some .failure ∧ s.Judges command := by
  have notTold {lines : List String} {t t' : Session} (told : t.Told lines (some e) t') : False := by
    obtain ⟨text, rfl⟩ := told.error_eq
    exact other text rfl
  cases h with
  | unreported words name told => exact (notTold told).elim
  | nul external hasNul =>
    exact ⟨by simp [commandVerdict?, external.name, hasNul, Status.failure],
      external.name, .inl hasNul⟩
  | unflushed external noNul told => exact (notTold told).elim
  | unspawned external noNul told refuses =>
    exact ⟨by simp [commandVerdict?, external.name, refuses, Status.failure],
      external.name, .inr (.inl (by simp [refuses]))⟩
  | unanswered external noNul foreground started gone fails granted =>
    have hgone := child_gone hn started gone
    refine ⟨?_, external.name, .inr (.inr (foreground_iff.mp foreground))⟩
    simp [commandVerdict?, external.name, noNul, granted, foreground, same, hgone,
      verdict_of_fault fails]
  | unannounced external noNul background started held told => exact (notTold told).elim

/-- What a single step does to the status, and when. -/
theorem Stepped.verdict {step : SessionStep} {error : Option CommandError}
    (h : s.Stepped step error s') (hn : s.machine.children.Numbered) :
    s'.shell.status = (s.verdictAfter? step error s').getD s.shell.status ∧
      ((s.verdictAfter? step error s').isSome = true ↔ ∃ line command, step = .line line ∧
        error = none ∧ parse line s.pid = .ok (some command) ∧ s.Judges command) := by
  have failing {line : String} {e : CommandError} {t : Session}
      (same : t.shell.status = s.shell.status) :
      t.shell.status = (s.verdictAfter? (.line line) (some e) t).getD s.shell.status ∧
        ((s.verdictAfter? (.line line) (some e) t).isSome = true ↔ ∃ line' command,
          SessionStep.line line = .line line' ∧ some e = none ∧
            parse line' s.pid = .ok (some command) ∧ s.Judges command) := by
    simp [verdictAfter?, same]
  cases h with
  | blank parses => simp [verdictAfter?, parses]
  | @refused line e error s' parses told =>
    cases error with
    | none => simp [verdictAfter?, parses, told.shell]
    | some error => exact failing (by rw [told.shell])
  | ran parses executed =>
    obtain ⟨hstatus, hsome⟩ := executed.verdict_of_ok hn (argv_ne_nil_of_parse parses)
    simp only [verdictAfter?, parses]
    refine ⟨hstatus, hsome.trans ?_⟩
    simp [parses]
  | broke parses executed => exact failing executed.status_of_error
  | @failed line command e between t parses executed other told =>
    have same : (t.remembering .failure).machine.children = between.machine.children :=
      told.children
    obtain ⟨hverdict, judges⟩ := executed.verdict_of_error hn other same
    have hafter : s.verdictAfter? (.line line) none (t.remembering .failure) = some .failure := by
      simp only [verdictAfter?, parses, hverdict]
    rw [hafter]
    exact ⟨rfl, iff_of_true rfl ⟨line, command, rfl, rfl, parses, judges⟩⟩
  | untold parses executed other told =>
    exact failing (by rw [told.shell, executed.status_of_error])
  | reported told => simp [verdictAfter?, told.shell, reaping]
  | unchanged => simp [verdictAfter?]
  | switched told => simp [verdictAfter?, told.shell, Session.switched]
  | @around step m elapses around => cases step <;> simp_all [verdictAfter?]
  | writer => simp [verdictAfter?]

theorem verdict_step (programs : Programs) {step : SessionStep} (single : step.IsSingle)
    (hn : s.machine.children.Numbered) :
    (s.after programs step).shell.status = (s.verdict? programs step).getD s.shell.status ∧
      ((s.verdict? programs step).isSome = true ↔ ∃ line command, step = .line line ∧
        (outcome (perform programs step) s).1 = none ∧
        parse line s.pid = .ok (some command) ∧ s.Judges command) := by
  obtain ⟨error, s', hout, stepped⟩ := step_stepped programs single hn
  rw [after, verdict?, hout]
  exact stepped.verdict hn

private theorem afterAll_status (programs : Programs) (hs : s.Tracked) {steps : List SessionStep}
    (single : ∀ step ∈ steps, step.IsSingle) :
    (s.afterAll programs steps).shell.status =
      ((s.verdicts programs steps).getLast?).getD s.shell.status := by
  induction steps generalizing s with
  | nil => rfl
  | cons step rest ih =>
    have hstep := single step List.mem_cons_self
    obtain ⟨error, s', hout, stepped⟩ := step_stepped programs hstep hs.numbered
    have hafter : s.after programs step = s' := by rw [after, hout]
    have hrest := ih (hafter ▸ stepped.touches.tracked hs)
      fun other ho => single other (List.mem_cons_of_mem _ ho)
    rw [afterAll_cons, hrest, (verdict_step programs hstep hs.numbered).1, verdicts,
      List.getLast?_append]
    cases ((s.after programs step).verdicts programs rest).getLast? <;>
      cases s.verdict? programs step <;> rfl

/-- The status of a session is its last verdict, and success if there is none yet. A step has a
verdict exactly if it is a line that goes well and is judged. -/
theorem status_eq_last_verdict (programs : Programs) (fresh : s.Fresh) {steps : List SessionStep}
    (single : ∀ step ∈ steps, step.IsSingle) :
    (s.afterAll programs steps).shell.status =
        ((s.verdicts programs steps).getLast?).getD (.exited 0) ∧
      ∀ before step after, steps = before ++ step :: after →
        let s' := s.afterAll programs before
        ((s'.verdict? programs step).isSome = true ↔ ∃ line command, step = .line line ∧
          (outcome (perform programs step) s').1 = none ∧
          parse line s'.pid = .ok (some command) ∧ s'.Judges command) := by
  refine ⟨?_, fun before step after hsteps => ?_⟩
  · rw [afterAll_status programs fresh.tracked single, fresh.status]
    rfl
  · have hstep := single step (by simp [hsteps])
    exact (verdict_step programs hstep (afterAll_tracked programs fresh.tracked before).numbered).2

/-- A child that cannot open its input is judged a failure; to ask for the status is not judged. -/
theorem status_eq_last_verdict_unopened :
    let programs : Programs := fun _ => .atOnce (.exited 0)
    let steps : List SessionStep := [.line "x < \x00", .line "status", .report]
    (∀ step ∈ steps, step.IsSingle) ∧
      (bare.afterAll programs steps).shell.status =
        ((bare.verdicts programs steps).getLast?).getD (.exited 0) ∧
      bare.verdicts programs steps = [.exited 1] := by
  have single : ∀ step ∈ [SessionStep.line "x < \x00", .line "status", .report], step.IsSingle := by
    simp [SessionStep.IsSingle]
  exact ⟨single, (status_eq_last_verdict _ bare_fresh single).1, by decide +kernel⟩

/-- A background command that is refused its process counts as failed, although its words could be
handed on. -/
theorem refused_background_judged :
    let programs : Programs := fun _ => .atOnce (.exited 0)
    let s : Session := { bare with refusal := fun _ => some .tryAgain }
    let command : Command := { argv := ["x"], background := true, text := "x &" }
    s.Fresh ∧ parse "x &" s.pid = .ok (some command) ∧
      Builtin.ofName? command.name = none ∧ hasNul command.argv = false ∧
      (command.background && s.shell.mode.allowsBackground) = true ∧
      (outcome (perform programs (.line "x &")) s).1 = none ∧
      s.shell.status = .exited 0 ∧
      (s.after programs (.line "x &")).shell.status = .exited 1 ∧
      (s.after programs (.line "x &")).shell.jobs = [] := by
  refine ⟨{ bare_fresh with }, ?_, ?_, ?_, rfl, ?_, rfl, ?_, ?_⟩ <;> decide +kernel

end Session

end JobShell
