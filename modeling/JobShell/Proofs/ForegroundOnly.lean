import JobShell.Proofs.Bookkeeping
import JobShell.Proofs.Coupling
import JobShell.Proofs.Marking
import JobShell.Proofs.Tracking

/-!
Foreground-only mode. A mark behind a command or a line has no effect there: the same is done, but
for the text under which a child is remembered, and no job is added.
-/

namespace JobShell

def Event.untitled : Event → Event
  | created pid _ => created pid ""
  | event => event

/-- A child that gets as far as its program launches what was found in one way. -/
theorem Departure.launch_eq {programs : Programs} {s : Session} {command : Command}
    {background : Bool} {launch : Launch}
    (h : (Departure.make programs s command background).launch = some launch) :
    ∃ image, launch =
      { image, argv := command.argv, pid := s.machine.children.next
        parent := s.machine.pid.toNat, cwd := s.machine.cwd, exported := s.shell.env.inherited
        streams := ((Redirections.ofCommand command background).apply s.machine.cwd
          s.machine.streams s.machine.store).streams
        policy := .forChild background, stopBlocked := s.machine.signals.blocked } := by
  simp only [Departure.make] at h
  split at h
  · cases h
  · split at h
    · cases h
    · split at h
      · cases h
      · exact ⟨_, (Option.some.inj h).symm⟩

namespace Session

/-- The sessions differ at most in the texts that children were created for. -/
def Retold (s t : Session) : Prop :=
  ∃ history, t = { s with history } ∧ history.map Event.untitled = s.history.map Event.untitled

variable {s t : Session} {programs : Programs} {command : Command}

theorem Retold.refl (s : Session) : s.Retold s :=
  ⟨_, rfl, rfl⟩

private theorem retold_note {first second : Event} (same : second.untitled = first.untitled) :
    Coupled Retold (note first) (note second) := by
  refine coupled_modify ?_
  rintro s _ ⟨history, rfl, texts⟩
  exact ⟨_, rfl, by simp [texts, same]⟩

private theorem retold_modifyMachine (f : Machine → Machine) :
    Coupled Retold (modifyMachine f) (modifyMachine f) := by
  refine coupled_modify ?_
  rintro s _ ⟨history, rfl, texts⟩
  exact ⟨_, rfl, texts⟩

private theorem retold_modifyShell (f : Shell → Shell) :
    Coupled Retold (modifyShell f) (modifyShell f) := by
  refine coupled_modify ?_
  rintro s _ ⟨history, rfl, texts⟩
  exact ⟨_, rfl, texts⟩

private theorem retold_get_bind {α : Type} {f g : Session → Action α}
    (frame : ∀ s history, g { s with history } = g s) (next : ∀ s, Coupled Retold (f s) (g s)) :
    Coupled Retold ((get : Action Session) >>= f) ((get : Action Session) >>= g) := by
  refine coupled_get_bind ?_
  rintro s _ ⟨history, rfl, texts⟩
  rw [frame]
  exact next s s _ ⟨history, rfl, texts⟩

private theorem retold_operate (operation : WriterOperation) :
    Coupled Retold (operate operation) (operate operation) := by
  refine coupled_get_bind ?_
  rintro s _ ⟨history, rfl, texts⟩
  simp only [EStateM.run_bind, EStateM.run_set]
  split
  · exact .error _ ⟨history, rfl, texts⟩
  · exact .ok () ⟨history, rfl, texts⟩

private theorem retold_speech : SameSpeech Retold where
  operate := retold_operate
  writeText text := by
    refine (retold_operate .write).bind fun _ => coupled_modify ?_
    rintro s _ ⟨history, rfl, texts⟩
    exact ⟨_, rfl, texts⟩

private theorem retold_builtin (args : List String) (builtin : Builtin) :
    Coupled Retold (builtin.run args) (builtin.run args) := by
  cases builtin with
  | exit =>
    refine retold_get_bind (fun _ _ => rfl) fun s => Coupled.bind (coupled_forM _ fun job _ => ?_)
      fun _ => (retold_modifyShell _).bind fun _ => coupled_pure _
    exact (retold_modifyMachine _).bind fun _ => retold_note rfl
  | cd =>
    refine retold_get_bind (fun _ _ => rfl) fun s => ?_
    dsimp only
    split
    · exact coupled_pure _
    · split
      · exact coupled_pure _
      · exact (retold_modifyMachine _).bind fun _ => (retold_modifyShell _).bind fun _ =>
          coupled_pure _
  | status =>
    exact retold_get_bind (fun _ _ => rfl) fun s => (retold_speech.writeLine _).bind fun _ =>
      retold_speech.flush.bind fun _ => coupled_pure _

private theorem retold_fork : Coupled Retold fork fork := by
  refine coupled_fork ?_ ?_
  · rintro s _ ⟨history, rfl, -⟩
    rfl
  · rintro s _ ⟨history, rfl, texts⟩
    exact ⟨history, rfl, texts⟩

private theorem retold_startChild (programs : Programs) (text : String) :
    Coupled Retold (startChild programs command false)
      (startChild programs { command with text } false) := by
  rintro s _ ⟨history, rfl, texts⟩
  simp only [startChild_run, Bool.false_eq_true, if_false]
  refine .ok _ ⟨_, rfl, ?_⟩
  have same : Departure.make programs { s with history } { command with text } false =
    Departure.make programs s command false := rfl
  simp only [departed, same, List.map_append, List.map_cons, texts]
  rfl

private theorem retold_waitForeground (pid : Pid) :
    Coupled Retold (waitForeground pid) (waitForeground pid) := by
  refine (retold_modifyMachine _).bind fun _ => retold_get_bind (fun _ _ => rfl) fun s =>
    (retold_modifyMachine _).bind fun _ => ?_
  split
  · exact coupled_pure _
  · exact coupled_throw _

private theorem retold_execute (programs : Programs) (text : String)
    (unmarked : command.background = false) :
    Coupled Retold (execute programs command) (execute programs { command with text }) := by
  refine coupled_execute rfl ?_ (fun builtin _ => retold_builtin _ builtin) fun s t related => ?_
  · rintro s _ ⟨history, rfl, texts⟩
    rfl
  · rw [unmarked]
    exact (retold_speech.flush.bind fun _ => retold_fork.bind fun _ =>
      (retold_startChild programs text).bind fun pid => retold_waitForeground pid) s t related

private theorem runExternal_of_foregroundOnly (programs : Programs) (command : Command)
    (mode : s.shell.mode = .foregroundOnly) :
    (runExternal programs command).run s =
      if hasNul command.argv then .error (.nulInArgument command.name) s
      else (runChild programs command false).run s := by
  have foreground : (command.background && s.shell.mode.allowsBackground) = false := by
    rw [mode]
    exact Bool.and_false _
  simp only [runExternal, EStateM.run_bind, EStateM.run_get, foreground]
  split <;> rfl

/-- In foreground-only mode the background flag has no effect. -/
theorem execute_of_foregroundOnly (programs : Programs) (command : Command)
    (mode : s.shell.mode = .foregroundOnly) :
    (execute programs command).run s =
      (execute programs { command with background := false }).run s := by
  have external := runExternal_of_foregroundOnly programs command mode
  have unmarked := runExternal_of_foregroundOnly programs { command with background := false } mode
  simp only [execute, EStateM.run_bind, EStateM.run_get]
  split
  · rfl
  · have name : Command.name { command with background := false } = command.name := rfl
    rw [name]
    split
    · rfl
    · rw [external, unmarked]
      rfl

/-! The jobs on record. -/

def AtMost (jobs : Registry) (shell : Shell) : Prop :=
  shell.jobs.Sublist jobs

/-- The same for a shell in foreground-only mode. -/
def Within (jobs : Registry) (shell : Shell) : Prop :=
  shell.mode = .foregroundOnly ∧ AtMost jobs shell

variable {holds : Shell → Prop} {jobs : Registry}

private theorem within_builtin (args : List String) (builtin : Builtin) :
    Coupled (Both fun s => Within jobs s.shell) (builtin.run args) (builtin.run args) := by
  refine both_builtin keeps_speech (fun s hs => ⟨hs.1, List.nil_sublist _⟩) ?_ args builtin
  rintro s _ ⟨cwd, dir, rfl⟩ hs
  exact hs

private theorem within_execute (programs : Programs) (command : Command) :
    Coupled (Both fun s => Within jobs s.shell) (execute programs command)
      (execute programs command) := by
  refine coupled_execute rfl ?_ (fun builtin _ => within_builtin _ builtin) ?_
  · rintro _ s ⟨rfl, -⟩
    rfl
  · rintro _ s ⟨rfl, hs⟩
    have foreground : (command.background && s.shell.mode.allowsBackground) = false := by
      rw [hs.1]
      exact Bool.and_false _
    rw [foreground]
    exact (keeps_speech.flush.bind fun _ => keeps_fork.bind fun _ =>
      (keeps_startChild programs command _).bind fun pid =>
        keeps_waitForeground pid fun _ _ h => h) s s ⟨rfl, hs⟩

private theorem within_line (programs : Programs) (line : String) :
    Coupled (Both fun s => Within jobs s.shell) (runLine programs line) (runLine programs line) := by
  refine both_get_bind fun s _ => ?_
  split
  · exact coupled_pure _
  · exact keeps_speech.complain _
  · exact (coupled_executeOrComplain keeps_speech (within_execute programs _)).bind fun _ =>
      keeps_modifyShell fun _ h => h

private theorem keeps_report {remembers : Shell → Prop}
    (fewer : ∀ shell kept, remembers shell → kept.Sublist shell.jobs →
      remembers { shell with jobs := kept }) :
    Coupled (Both fun s => remembers s.shell) reportFinishedJobs reportFinishedJobs := by
  refine both_get_bind fun s hs => (both_set ?_).bind fun _ =>
    (coupled_forM _ fun _ _ => keeps_speech.writeLine _).bind fun _ => keeps_speech.flush
  exact fewer s.shell _ hs (Registry.reapWith_kept_sublist _ _ _)

private theorem within_report :
    Coupled (Both fun s => Within jobs s.shell) reportFinishedJobs reportFinishedJobs :=
  keeps_report fun _ _ h kept => ⟨h.1, kept.trans h.2⟩

private theorem within_lines (programs : Programs) (lines : List String) :
    Coupled (Both fun s => Within jobs s.shell) (runLines programs lines)
      (runLines programs lines) := by
  refine coupled_runLines ?_ within_report (within_line programs "exit") fun line _ =>
    within_line programs line
  rintro _ s ⟨rfl, -⟩
  rfl

private theorem atMost_sync : Coupled (Both fun s => AtMost jobs s.shell) syncMode syncMode := by
  refine both_get_bind fun s _ => ?_
  dsimp only
  split
  · refine (keeps_modifyShell ?_).bind fun _ => (keeps_speech.writeLine _).bind fun _ =>
      keeps_speech.flush
    exact fun _ h => h
  · exact coupled_pure _

/-- In foreground-only mode no step adds a job. -/
theorem after_jobs_sublist (programs : Programs) (mode : s.shell.mode = .foregroundOnly)
    (step : SessionStep) : (s.after programs step).shell.jobs.Sublist s.shell.jobs := by
  have within {action : Action Unit}
      (keeps : Coupled (Both fun t => Within s.shell.jobs t.shell) action action) :
      (outcome action s).2.shell.jobs.Sublist s.shell.jobs :=
    (keeps.holds_of_leaves ⟨mode, List.Sublist.refl _⟩ (leaves_outcome action s)).2
  cases step with
  | line text => exact within (within_line programs text)
  | lines texts => exact within (within_lines programs texts)
  | report => exact within within_report
  | sync => exact atMost_sync.holds_of_leaves (List.Sublist.refl _) (leaves_outcome _ s)
  | toggle | signal | signalChild | pass | writer => exact List.Sublist.refl _

/-! The child. -/

/-- A child was started for the command in the foreground, with the streams that the targets of the
command give and no others, and was waited for. -/
structure InForeground (s : Session) (command : Command) (t : Session) : Prop where
  started : ∃ launch : Option Launch,
    t.history = s.history ++ .created s.machine.children.next command.text ::
      launch.toList.map .launched ∧
    ∀ found ∈ launch, found.argv = command.argv ∧ found.policy = .forChild false ∧
      found.streams = (Redirections.apply { input := command.input, output := command.output }
        s.machine.cwd s.machine.streams s.machine.store).streams
  gone : ∃ ending, t.machine.children.state? s.machine.children.next = some (.gone ending)
  shell : t.shell = s.shell

private theorem runChild_history (flushes : s.writer.fault s.writer.operations .flush = none)
    (granted : s.refusal s.forks = none)
    (h : Leaves (runChild programs command false) s t) :
    t.history = s.history ++ .created s.machine.children.next command.text ::
      (Departure.make programs s command false).launch.toList.map .launched := by
  have started : (startChild programs command false).run s.counted.forked =
      .ok s.machine.children.next (departed programs s.counted.forked command false) := by
    simp only [startChild_run, Bool.false_eq_true, if_false]
    rfl
  have forks : fork.run s.counted = .ok () s.counted.forked := by
    rw [fork_run, show s.counted.refusal s.counted.forks = none from granted]
  have runs : (runChild programs command false).run s =
      (waitForeground s.machine.children.next).run
        (departed programs s.counted.forked command false) := by
    simp only [runChild, EStateM.run_bind, flush, operate_run, flushes, forks, started,
      Bool.false_eq_true, if_false]
  have waits := keeps_waitForeground s.machine.children.next
    (fun u _ (h : u.history = (departed programs s.counted.forked command false).history) => h)
  refine waits.holds_of_leaves rfl ?_
  unfold Leaves at h ⊢
  rwa [runs] at h

/-- In foreground-only mode a command that is a program runs in the foreground, unless the writer
fails before or the system refuses the child. -/
theorem inForeground_of_leaves (programs : Programs) (mode : s.shell.mode = .foregroundOnly)
    (hn : s.machine.children.Numbered) (external : command.IsExternal)
    (noNul : hasNul command.argv = false)
    (flushes : s.writer.fault s.writer.operations .flush = none)
    (granted : s.refusal s.forks = none)
    (h : Leaves (execute programs command) s t) : s.InForeground command t := by
  have runs : (execute programs command).run s = (runChild programs command false).run s := by
    have words := external.words
    have name := external.name
    simp only [execute, EStateM.run_bind, EStateM.run_get, if_neg words, name]
    rw [runExternal_of_foregroundOnly programs command mode, if_neg (by simp [noNul])]
  have history : t.history = s.history ++ .created s.machine.children.next command.text ::
      (Departure.make programs s command false).launch.toList.map .launched := by
    refine runChild_history flushes granted ?_
    unfold Leaves at h ⊢
    rwa [runs] at h
  have waited (child : Child) (ending : Ending) (started : s.Started command.text child t)
      (gone : child.state = .gone ending) : s.InForeground command t := by
    refine ⟨⟨_, history, fun found hfound => ?_⟩, ⟨ending, ?_⟩, started.shell⟩
    · rw [← Redirections.ofCommand_foreground]
      obtain ⟨image, rfl⟩ := Departure.launch_eq hfound
      exact ⟨rfl, rfl, rfl⟩
    · rw [← started.children.number, ← gone]
      exact started.children.state?_self hn
  have notBackground : (command.background && s.shell.mode.allowsBackground) ≠ true := by
    simp [mode, Mode.allowsBackground]
  obtain ⟨result, executed⟩ := executed_of_leaves hn h
  cases executed with
  | noWords words => exact absurd words external.words
  | exited isExit => cases external.name.symm.trans isExit.name
  | moved words name | reported words name | unreported words name =>
    cases external.name.symm.trans name
  | nul _ hasNul => cases noNul.symm.trans hasNul
  | unflushed _ _ told =>
    cases told with
    | cut _ short => cases short
    | unflushed _ _ fails => cases flushes.symm.trans fails
  | unspawned _ _ _ refuses => cases granted.symm.trans refuses
  | ended _ _ _ started gone | unanswered _ _ _ started gone => exact waited _ _ started gone
  | announced _ _ background | unannounced _ _ background => exact absurd background notBackground

/-- In foreground-only mode a `&` at the end of a command or a line has no effect. A command does
the same with the flag as without: a program is run in the foreground, with no stream from the null
device that its own targets do not name, and is waited for. No step adds a job. A mark behind a line
that has none changes nothing about the command but the flag and the text, whatever the line ends in,
so both lines come to the same, but for the text in the record of the child. -/
theorem mark_without_effect (programs : Programs) (mode : s.shell.mode = .foregroundOnly) :
    (∀ command : Command, (execute programs { command with background := true }).run s =
      (execute programs { command with background := false }).run s) ∧
    (∀ (command : Command) (t : Session), s.machine.children.Numbered → command.IsExternal →
      hasNul command.argv = false → s.writer.fault s.writer.operations .flush = none →
      s.refusal s.forks = none →
      Leaves (execute programs command) s t → s.InForeground command t) ∧
    (∀ step, (s.after programs step).shell.jobs.Sublist s.shell.jobs) ∧
    (∀ (line : String) (pid : UInt32) (command : Command),
      parse line pid = .ok (some command) → command.background = false →
      line.utf8ByteSize ≤ 2046 → parse (line ++ " &") pid =
        .ok (some { command with background := true, text := expandPid pid line ++ " &" })) ∧
    ∀ (line : String) (command : Command), parse line s.pid = .ok (some command) →
      command.background = false → line.utf8ByteSize ≤ 2046 →
      let plain := outcome (runLine programs line) s
      let marked := outcome (runLine programs (line ++ " &")) s
      marked.1 = plain.1 ∧ plain.2.Retold marked.2 := by
  refine ⟨fun command => execute_of_foregroundOnly programs _ mode,
    fun command t hn external noNul flushes granted =>
      inForeground_of_leaves programs mode hn external noNul flushes granted,
    after_jobs_sublist programs mode,
    fun line pid command => parse_concat_mark, ?_⟩
  intro line command parses unmarked short
  have same : (executeOrComplain programs { command with
        background := true, text := expandPid s.pid line ++ " &" }).run s =
      (executeOrComplain programs { command with text := expandPid s.pid line ++ " &" }).run s := by
    have runs := execute_of_foregroundOnly programs
      { command with background := true, text := expandPid s.pid line ++ " &" } mode
    rw [← unmarked] at runs
    exact executeOrComplain_congr runs
  have coupled := coupled_executeOrComplain retold_speech
    (retold_execute programs (expandPid s.pid line ++ " &") unmarked) s s (.refl s)
  refine (runLine_alike ?_ parses (parse_concat_mark parses unmarked short) (same ▸ coupled)).outcome
  rintro u _ status ⟨history, rfl, texts⟩
  exact ⟨history, rfl, texts⟩

/-- A line that ends in a target named as the mark is, in foreground-only mode and with a mark behind
it: either line leaves one child that was waited for. -/
theorem mark_without_effect_target :
    let programs : Programs := fun _ => .atOnce (.exited 0)
    let s : Session := { bare with shell.mode := .foregroundOnly }
    let command : Command :=
      { argv := ["x"], input := some "\x00", output := some "&", text := "x < \x00 > &" }
    parse "x < \x00 > &" s.pid = .ok (some command) ∧
      parse "x < \x00 > & &" s.pid =
        .ok (some { command with background := true, text := "x < \x00 > & &" }) ∧
      (∃ t, Leaves (execute programs command) s t ∧ s.InForeground command t) ∧
      let plain := outcome (runLine programs "x < \x00 > &") s
      let marked := outcome (runLine programs "x < \x00 > & &") s
      marked.1 = plain.1 ∧ plain.2.Retold marked.2 ∧
        marked.2.history = [.created 3 "x < \x00 > & &"] ∧
        marked.2.machine.children.all.map (·.state.isHeld) = [false] := by
  intro programs s command
  have parses : parse "x < \x00 > &" s.pid = .ok (some command) := by decide +kernel
  have line : "x < \x00 > &" ++ " &" = "x < \x00 > & &" := by decide
  have text : expandPid s.pid "x < \x00 > &" = "x < \x00 > &" := by decide +kernel
  obtain ⟨-, foreground, -, marks, runs⟩ :=
    mark_without_effect programs (show s.shell.mode = .foregroundOnly from rfl)
  obtain ⟨t, leaves⟩ := exists_leaves (execute programs command) s
  have marked := marks "x < \x00 > &" s.pid command parses rfl (by decide)
  have same := runs "x < \x00 > &" command parses rfl (by decide)
  rw [text, line] at marked
  rw [line] at same
  exact ⟨parses, marked,
    ⟨t, leaves, foreground command t bare_fresh.tracked.numbered ⟨by decide, by decide⟩ (by decide)
      rfl rfl leaves⟩,
    same.1, same.2, by decide +kernel, by decide +kernel⟩

end Session
end JobShell
