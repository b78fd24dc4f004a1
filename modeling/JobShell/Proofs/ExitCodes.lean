import JobShell.CommandLine
import JobShell.Proofs.Coupling
import JobShell.Proofs.Leaving
import JobShell.Proofs.Verdicts

/-!
What the shell can remember of a command, and how it comes out of the program. Whatever children do,
only a few statuses are ever on record, and no two of them have the same exit code. The code of the
program is that of the last verdict before the first `exit`, or before the end of the lines.
-/

namespace JobShell

namespace Status

/-- The statuses that a verdict on a foreground command can be. -/
inductive IsVerdict : Status → Prop
  | success : IsVerdict (.exited 0)
  | failure : IsVerdict (.exited 1)
  | signaled (number : Nat) (pos : 1 ≤ number) (named : number ≤ 31) : IsVerdict (.signaled number)

variable {status other : Status}

private theorem IsVerdict.collapsed_eq (h : status.IsVerdict) : status.collapsed = status := by
  cases h <;> rfl

private theorem IsVerdict.text_eq (h : status.IsVerdict) :
    status.text = "exit value 0" ∨ status.text = "exit value 1" ∨
      ∃ number : Nat, 1 ≤ number ∧ number ≤ 31 ∧
        status.text = "terminated by signal " ++ toString number := by
  cases h with
  | success => exact .inl rfl
  | failure => exact .inr (.inl rfl)
  | signaled number pos named => exact .inr (.inr ⟨number, pos, named, rfl⟩)

private theorem IsVerdict.exitCode_eq (h : status.IsVerdict) :
    status.exitCode = 0 ∨ status.exitCode = 1 ∨ 129 ≤ status.exitCode ∧ status.exitCode ≤ 159 := by
  cases h with
  | success => exact .inl rfl
  | failure => exact .inr (.inl rfl)
  | signaled number pos named =>
    rw [exitCode]
    omega

/-- The exit code tells the statuses apart. -/
theorem IsVerdict.eq_of_exitCode (h : status.IsVerdict) (h' : other.IsVerdict)
    (same : status.exitCode = other.exitCode) : status = other := by
  cases h <;> cases h' <;> dsimp only [exitCode] at same
  case signaled.signaled => rw [Int.add_left_cancel same]
  all_goals first | rfl | omega

end Status

private theorem Ending.verdict_isVerdict (ending : Ending) : ending.verdict.IsVerdict := by
  cases ending with
  | exited code =>
    rw [Ending.verdict]
    split
    · exact .success
    · exact .failure
  | killed signal =>
    rw [Ending.verdict]
    split
    · next named => exact .signaled signal.number signal.pos named
    · exact .failure

private theorem CommandLine.toNat_exitByte {status : Status} (h : status.IsVerdict) :
    ((CommandLine.exitByte status).toNat : Int) = status.exitCode := by
  have fits := h.exitCode_eq
  have byte : (CommandLine.exitByte status).toNat = (status.exitCode % 256).toNat % 256 :=
    UInt8.toNat_ofNat'
  omega

namespace Session

variable {programs : Programs} {s s' t : Session} {line : String} {command : Command}

private theorem isVerdict_of_verdictAfter? {step : SessionStep} {error : Option CommandError}
    {status : Status} (h : s.verdictAfter? step error s' = some status) : status.IsVerdict := by
  unfold verdictAfter? at h
  split at h
  · split at h
    · unfold commandVerdict? at h
      split_ifs at h
      · cases h
        exact .failure
      · split at h
        · cases h
          exact Ending.verdict_isVerdict _
        · cases h
    · cases h
  · cases h

private theorem Stepped.isVerdict {step : SessionStep} {error : Option CommandError}
    (h : s.Stepped step error s') (hn : s.machine.children.Numbered)
    (before : s.shell.status.IsVerdict) : s'.shell.status.IsVerdict := by
  rw [(h.verdict hn).1]
  cases hv : s.verdictAfter? step error s' with
  | none => exact before
  | some status => exact isVerdict_of_verdictAfter? hv

private theorem afterAll_isVerdict (programs : Programs) (fresh : s.Fresh)
    (steps : List SessionStep) : (s.afterAll programs steps).shell.status.IsVerdict := by
  have initial : s.shell.status.IsVerdict := by
    rw [fresh.status]
    exact .success
  have kept : (s.afterAll programs steps).Tracked ∧
      (s.afterAll programs steps).shell.status.IsVerdict :=
    @afterAll_invariant s programs (fun s => s.Tracked ∧ s.shell.status.IsVerdict)
      (fun _ hs => hs.1.numbered)
      (fun _ _ _ _ stepped hs =>
        ⟨stepped.touches.tracked hs.1, stepped.isVerdict hs.1.numbered hs.2⟩)
      ⟨fresh.tracked, initial⟩ steps
  exact kept.2

/-- The built-in `status` writes the text of the status and nothing else. -/
theorem status_said (programs : Programs) (parses : parse line s.pid = .ok (some command))
    (name : Builtin.ofName? command.name = some .status) :
    let result := outcome (runLine programs line) s
    ∃ lines, result.2.writer.written = s.writer.written ++ lines ∧
      lines <+: [s.shell.status.text ++ "\n"] ∧
      (result.1 = none → lines = [s.shell.status.text ++ "\n"]) := by
  have told {t : Session} {error : Option CommandError}
      (told : s.Told [s.shell.status.text] error t) :
      ∃ lines, t.writer.written = s.writer.written ++ lines ∧
        lines <+: [s.shell.status.text ++ "\n"] ∧
        (error = none → lines = [s.shell.status.text ++ "\n"]) := by
    cases told with
    | whole wrote => exact ⟨_, wrote.written, List.prefix_rfl, fun _ => rfl⟩
    | cut count short wrote =>
      exact ⟨_, wrote.written, (List.take_prefix count [s.shell.status.text]).map _, nofun⟩
    | unflushed wrote => exact ⟨_, wrote.written, List.prefix_rfl, nofun⟩
  have executes : (execute programs command).run s = Builtin.runStatus.run s := by
    simp only [execute, EStateM.run_bind, EStateM.run_get, argv_ne_nil_of_parse parses, name,
      if_false]
    rfl
  rw [outcome, runLine_run parses]
  rcases status_run s with ⟨t, hrun, said⟩ | ⟨e, t, hrun, said⟩
  · rw [executeOrComplain_ok (executes.trans hrun)]
    obtain ⟨lines, written, rest⟩ := told said
    exact ⟨lines, written, rest⟩
  · obtain ⟨text, rfl⟩ := said.error_eq
    rw [executeOrComplain_output (executes.trans hrun)]
    exact told said

/-! The loops. -/

def linesVerdicts (programs : Programs) (s : Session) : List String → List Status
  | [] => []
  | line :: rest =>
    let s := s.after programs .report
    if s.ExitLine line then []
    else
      (s.verdict? programs (.line line)).toList ++
        linesVerdicts programs (s.after programs (.line line)) rest

/-- The verdicts on the lines that are read at the prompt, up to the first `exit` or the end of the
input. -/
def promptVerdicts (programs : Programs) (prompt : Option String) (fuel : Nat) (s : Session) :
    Nat → List Status
  | 0 => []
  | lines + 1 =>
    match (nextLine prompt fuel).run s with
    | .ok (some (byte :: bytes)) s =>
      match Text.readTyped (byte :: bytes) with
      | .line text =>
        if s.ExitLine text then []
        else
          (s.verdict? programs (.line text)).toList ++
            promptVerdicts programs prompt fuel (s.after programs (.line text)) lines
      | _ => []
    | _ => []

private theorem after_of_run {step : SessionStep} (h : (perform programs step).run s = .ok () t) :
    s.after programs step = t := by
  rw [after, outcome, h]

private theorem isVerdict_of_mem_linesVerdicts {lines : List String} {status : Status}
    (h : status ∈ s.linesVerdicts programs lines) : status.IsVerdict := by
  induction lines generalizing s with
  | nil => cases h
  | cons line rest ih =>
    simp only [linesVerdicts] at h
    split at h
    · cases h
    · rcases List.mem_append.mp h with h | h
      · exact isVerdict_of_verdictAfter? (Option.mem_toList.mp h)
      · exact ih h

private theorem isVerdict_of_mem_promptVerdicts {prompt : Option String} {fuel lines : Nat}
    {status : Status} (h : status ∈ s.promptVerdicts programs prompt fuel lines) :
    status.IsVerdict := by
  induction lines generalizing s with
  | zero => cases h
  | succ lines ih =>
    unfold promptVerdicts at h
    split at h
    · split at h
      · split at h
        · cases h
        · rcases List.mem_append.mp h with h | h
          · exact isVerdict_of_verdictAfter? (Option.mem_toList.mp h)
          · exact ih h
      · cases h
    · cases h

private theorem status_of_step (programs : Programs) {step : SessionStep} (single : step.IsSingle)
    (hn : s.machine.children.Numbered) (h : (perform programs step).run s = .ok () t) :
    t.shell.status = (s.verdict? programs step).getD s.shell.status := by
  rw [← after_of_run h]
  exact (verdict_step programs single hn).1

private theorem getLast?_toList_append (first : Option Status) (rest : List Status)
    (status : Status) : (first.toList ++ rest).getLast?.getD status =
      rest.getLast?.getD (first.getD status) := by
  rw [List.getLast?_append]
  cases rest.getLast? <;> cases first <;> rfl

private theorem status_of_report (hs : s.Open) (h : reportFinishedJobs.run s = .ok () t) :
    t.shell.status = s.shell.status :=
  status_of_step (fun _ => .atOnce (.exited 0)) (show SessionStep.report.IsSingle from trivial)
    hs.numbered h

/-- Given lines leave their last verdict. -/
theorem runLines_status (lines : List String) (hs : s.Open)
    (h : (runLines programs lines).run s = .ok () t) :
    t.shell.status = (s.linesVerdicts programs lines).getLast?.getD s.shell.status := by
  induction lines generalizing s with
  | nil =>
    obtain rfl := (EStateM.Result.ok.inj ((exitLine_run programs s.exitLine_exit).symm.trans h)).2
    rfl
  | cons line rest ih =>
    obtain ⟨_, reported, reports, h⟩ := exists_of_bind_ok h
    obtain ⟨_, ran, runs, h⟩ := exists_of_bind_ok h
    rw [run_get_bind] at h
    have open_reported := hs.after_report reports
    have reported_status := status_of_report hs reports
    have first : s.after programs .report = reported := after_of_run reports
    have second : reported.after programs (.line line) = ran := after_of_run runs
    simp only [linesVerdicts, first, second]
    by_cases exit : reported.ExitLine line
    · obtain rfl := (EStateM.Result.ok.inj ((exitLine_run programs exit).symm.trans runs)).2
      rw [if_pos (show reported.exited.shell.shouldExit = true from rfl)] at h
      obtain rfl := (EStateM.Result.ok.inj h).2
      rw [if_pos exit]
      exact reported_status
    · have open_ran := open_reported.after_step programs (.line line) trivial
        (fun _ he => SessionStep.line.inj he ▸ exit) runs
      rw [if_neg (by simp [open_ran.going])] at h
      rw [if_neg exit, getLast?_toList_append, ih open_ran h,
        status_of_step programs (show (SessionStep.line line).IsSingle from trivial)
          open_reported.numbered runs, reported_status]

private theorem showPrompt_shell {prompt : Option String}
    (h : (showPrompt prompt).run s = .ok () t) : t.shell = s.shell := by
  have speech := @keeps_speech fun shell => shell = s.shell
  have keeps : Coupled (Both fun t => t.shell = s.shell) (showPrompt prompt)
      (showPrompt prompt) := by
    cases prompt with
    | none => exact coupled_pure ()
    | some text => exact (speech.writeText text).bind fun _ => speech.flush
  exact keeps.holds_of_leaves rfl (.inl ⟨(), h⟩)

private theorem nextLine_status {prompt : Option String} {fuel : Nat} {taken : Option Bytes}
    (hs : s.Open) (h : (nextLine prompt fuel).run s = .ok taken t) :
    t.shell.status = s.shell.status := by
  obtain ⟨_, prepared, prepares, h⟩ := exists_of_bind_ok h
  obtain ⟨_, reported, reports, syncs⟩ := exists_of_bind_ok prepares
  obtain ⟨_, prompted, prompts, takes⟩ := exists_of_bind_ok h
  have synced : prepared.shell.status = reported.shell.status :=
    status_of_step (fun _ => .atOnce (.exited 0)) (show SessionStep.sync.IsSingle from trivial)
      (hs.after_report reports).numbered syncs
  rw [takeLine_rest takes]
  calc prompted.shell.status
      = prepared.shell.status := by rw [showPrompt_shell prompts]
    _ = reported.shell.status := synced
    _ = s.shell.status := status_of_report hs reports

/-- The lines of the input leave their last verdict. -/
theorem promptLoop_status {prompt : Option String} {fuel : Nat} (lines : Nat) (hs : s.Open)
    (h : (promptLoop.go programs prompt fuel lines).run s = .ok .finished t) :
    t.shell.status =
      (s.promptVerdicts programs prompt fuel lines).getLast?.getD s.shell.status := by
  induction lines generalizing s with
  | zero => cases (EStateM.Result.ok.inj h).1
  | succ lines ih =>
    obtain ⟨bytes, read, reads, turn⟩ := promptLoop_turn hs.going h
    have open_read := hs.after_nextLine reads
    have read_status := nextLine_status hs reads
    rw [promptVerdicts, reads]
    obtain ⟨rfl, exits⟩ | ⟨text, ran, more, typed, runs, goes⟩ := turn
    · obtain rfl :=
        (EStateM.Result.ok.inj ((exitLine_run programs read.exitLine_exit).symm.trans exits)).2
      exact read_status
    · obtain ⟨byte, rest, rfl⟩ := List.exists_cons_of_ne_nil more
      simp only [typed]
      by_cases exit : read.ExitLine text
      · obtain rfl := (EStateM.Result.ok.inj ((exitLine_run programs exit).symm.trans runs)).2
        rw [if_pos exit, promptLoop_done rfl goes]
        exact read_status
      · have open_ran := open_read.after_step programs (.line text) trivial
          (fun _ he => SessionStep.line.inj he ▸ exit) runs
        have second : read.after programs (.line text) = ran := after_of_run runs
        rw [if_neg exit, getLast?_toList_append, second, ih open_ran goes,
          status_of_step programs (show (SessionStep.line text).IsSingle from trivial)
            open_read.numbered runs, read_status]

end Session

namespace CommandLine

def verdicts (programs : Programs) (options : Options) (s : Session) : List Status :=
  if options.commands = [] then
    let fuel := (s.machine.store.content s.machine.streams.input).length + spareLines
    s.promptVerdicts programs (shownPrompt s.shell.env.inherited options) fuel fuel
  else s.linesVerdicts programs options.commands

variable {programs : Programs} {invocation : Invocation} {options : Options} {s t : Session}
  {status : Status}

private theorem start_fresh (options : Options) (childless : invocation.machine.children.all = [])
    (next : 0 < invocation.machine.children.next) : (start invocation options).Fresh :=
  ⟨rfl, rfl, rfl, childless, next, rfl⟩

private theorem session_status (hs : s.Open)
    (h : (session programs options).run s = .ok .finished t) :
    t.shell.status = (verdicts programs options s).getLast?.getD s.shell.status := by
  unfold session at h
  unfold verdicts
  split at h
  · next none =>
    rw [if_pos none]
    rw [Session.run_get_bind] at h
    generalize (s.machine.store.content s.machine.streams.input).length + spareLines = fuel at h ⊢
    exact Session.promptLoop_status fuel hs h
  · next some =>
    obtain ⟨_, ran, runs, h⟩ := Session.exists_of_bind_ok h
    obtain rfl := (EStateM.Result.ok.inj h).2
    rw [if_neg some]
    exact Session.runLines_status _ hs runs

private theorem isVerdict_of_mem_verdicts (h : status ∈ verdicts programs options s) :
    status.IsVerdict := by
  unfold verdicts at h
  split at h
  · exact Session.isVerdict_of_mem_promptVerdicts h
  · exact Session.isVerdict_of_mem_linesVerdicts h

/-- A program that comes to the end of its lines hands on the code of the last verdict on them. -/
theorem run_eq (childless : invocation.machine.children.all = [])
    (next : 0 < invocation.machine.children.next)
    (ends : (session programs options).run (start invocation options) = .ok .finished t) :
    let status := (verdicts programs options (start invocation options)).getLast?.getD (.exited 0)
    run programs invocation options = (exitByte status, t) ∧
      ((exitByte status).toNat : Int) = status.exitCode := by
  intro status
  have opened : (start invocation options).Open :=
    ⟨(start_fresh options childless next).accounted, rfl⟩
  have left : t.shell.status = status := session_status opened ends
  have verdict : status.IsVerdict := by
    unfold status
    cases last : (verdicts programs options (start invocation options)).getLast? with
    | none => exact .success
    | some final => exact isVerdict_of_mem_verdicts (List.mem_of_getLast? last)
  exact ⟨by rw [run, ends, ← left], toNat_exitByte verdict⟩

end CommandLine

namespace Session

variable {s : Session}

/-- In every state of a session the status is one of few. It comes out of `status` in one of three
forms, stays what it is when it is collapsed, and its exit code fits into a byte and tells it from
every other status that a session comes to. A program that comes to the end of its lines hands on
the exit code of the last verdict before the first `exit`, or of success if there is none. -/
theorem exit_code_faithful (programs : Programs) (fresh : s.Fresh) (steps : List SessionStep) :
    (let s' := s.afterAll programs steps
    let status := s'.shell.status
    status.IsVerdict ∧
    (status.text = "exit value 0" ∨ status.text = "exit value 1" ∨ ∃ number : Nat, 1 ≤ number ∧
      number ≤ 31 ∧ status.text = "terminated by signal " ++ toString number) ∧
    (∀ line command, parse line s'.pid = .ok (some command) →
      Builtin.ofName? command.name = some .status →
      let result := outcome (runLine programs line) s'
      ∃ lines, result.2.writer.written = s'.writer.written ++ lines ∧
        lines <+: [status.text ++ "\n"] ∧ (result.1 = none → lines = [status.text ++ "\n"])) ∧
    status.collapsed = status ∧
    (status.exitCode = 0 ∨ status.exitCode = 1 ∨
      129 ≤ status.exitCode ∧ status.exitCode ≤ 159) ∧
    ((CommandLine.exitByte status).toNat : Int) = status.exitCode ∧
    ∀ (programs' : Programs) (t : Session) (steps' : List SessionStep), t.Fresh →
      let other := (t.afterAll programs' steps').shell.status
      other.exitCode = status.exitCode → other = status) ∧
    ∀ (invocation : CommandLine.Invocation) (options : Options) (t : Session),
      invocation.machine.children.all = [] → 0 < invocation.machine.children.next →
      let s' := CommandLine.start invocation options
      (CommandLine.session programs options).run s' = .ok .finished t →
      let status := (CommandLine.verdicts programs options s').getLast?.getD (.exited 0)
      CommandLine.run programs invocation options = (CommandLine.exitByte status, t) ∧
      ((CommandLine.exitByte status).toNat : Int) = status.exitCode := by
  constructor
  · intro s' status
    have verdict : status.IsVerdict := afterAll_isVerdict programs fresh steps
    exact ⟨verdict, verdict.text_eq, fun line command => status_said programs,
      verdict.collapsed_eq, verdict.exitCode_eq, CommandLine.toNat_exitByte verdict,
      fun programs' t steps' fresh' =>
        (afterAll_isVerdict programs' fresh' steps').eq_of_exitCode verdict⟩
  · intro invocation options t childless next s' ends
    exact CommandLine.run_eq childless next ends

private def terminated : Programs := fun _ => .atOnce (.killed .terminate)

private def onEquipped : CommandLine.Invocation :=
  { machine := equipped.machine, exported := [], currentDir := "/" }

private def threeLines : Options :=
  { commands := ["/x", "exit", "/x"] }

private theorem ends_threeLines : ∃ t, (CommandLine.session terminated threeLines).run
    (CommandLine.start onEquipped threeLines) = .ok .finished t := by
  have ends : (match (CommandLine.session terminated threeLines).run
      (CommandLine.start onEquipped threeLines) with
    | .ok .finished _ => true
    | _ => false) = true := by decide +kernel
  split at ends
  · exact ⟨_, by assumption⟩
  · cases ends

private theorem verdicts_threeLines : CommandLine.verdicts terminated threeLines
    (CommandLine.start onEquipped threeLines) = [.signaled 15] := by
  decide +kernel

/-- The child of the first line is ended by SIGTERM. The line after `exit` is not run. -/
theorem exit_code_faithful_terminated :
    (equipped.afterAll terminated [.line "/x"]).shell.status.IsVerdict ∧
    (CommandLine.run terminated onEquipped threeLines).1 = 143 := by
  obtain ⟨remembered, handed⟩ := exit_code_faithful terminated equipped_fresh [.line "/x"]
  obtain ⟨t, ends⟩ := ends_threeLines
  obtain ⟨code, -⟩ := handed onEquipped threeLines t rfl (by decide) ends
  rw [verdicts_threeLines] at code
  exact ⟨remembered.1, by rw [code]; rfl⟩

/-- Of a background command too the code of the program may tell: of one that is refused its process,
and of one whose words cannot be handed on. -/
theorem code_of_background :
    let refused := { onEquipped with refusal := fun _ => some .tryAgain }
    parse "/x &" equipped.pid =
        .ok (some { argv := ["/x"], background := true, text := "/x &" }) ∧
      (CommandLine.run terminated refused { commands := ["/x &"] }).1 = 1 ∧
      parse "x\x00y &" equipped.pid =
        .ok (some { argv := ["x\x00y"], background := true, text := "x\x00y &" }) ∧
      (CommandLine.run terminated onEquipped { commands := ["x\x00y &"] }).1 = 1 := by
  refine ⟨?_, ?_, ?_, ?_⟩ <;> decide +kernel

end Session

end JobShell
