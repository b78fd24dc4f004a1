import JobShell.Proofs.Hearing
import Mathlib.Algebra.Ring.Parity

/-!
The mode of the shell and the mode that is asked for. They are brought together when the shell takes
on the mode that is asked for, and at no other time; each change is told then, once.
-/

namespace JobShell.Session

def announced? (text : String) : Option Mode :=
  [Mode.interactive, .foregroundOnly].find? fun mode => text = mode.announcement ++ "\n"

def announced (programs : Programs) (s : Session) (steps : List SessionStep) : List Mode :=
  (s.said programs steps).filterMap announced?

def flips (programs : Programs) (s : Session) (steps : List SessionStep) : Nat :=
  s.machine.signals.flips (s.signalSteps programs steps)

/-- The mode is the same as before, and nothing that was written announces one. -/
structure Hushed (s s' : Session) : Prop where
  mode : s'.shell.mode = s.shell.mode
  fault : s'.writer.fault = s.writer.fault
  lines : ∃ lines : List String, (∀ line ∈ lines, ¬ IsAnnouncing line) ∧
    s'.writer.written = s.writer.written ++ lines.map (· ++ "\n")

/-- What a session needs so that all that it has to say is said. -/
structure Audible (s : Session) : Prop where
  numbered : s.machine.children.Numbered
  works : s.writer.Works

inductive Announces (s : Session) : SessionStep → List String → Mode → Prop
  | hushed {step : SessionStep} {texts : List String} (notSync : step ≠ .sync)
      (none : texts.filterMap announced? = []) : Announces s step texts s.shell.mode
  | unchanged (same : s.InMode) : Announces s .sync [] s.shell.mode
  | switched (other : ¬ s.InMode) : Announces s .sync
      [s.machine.signals.requested.announcement ++ "\n"] s.machine.signals.requested

variable {programs : Programs} {s s' s'' t : Session} {step : SessionStep}
  {steps : List SessionStep} {command : Command} {lines texts : List String}

private theorem announced?_announcement (mode : Mode) :
    announced? (mode.announcement ++ "\n") = some mode := by
  cases mode <;> decide

private theorem announced?_eq_none {line : String} (h : ¬ IsAnnouncing line) :
    announced? (line ++ "\n") = none := by
  refine List.find?_eq_none.mpr fun mode _ same => h ?_
  rw [(String.append_left_inj _).mp (of_decide_eq_true same)]
  exact isAnnouncing_announcement mode

private theorem Hushed.of_same (mode : s'.shell.mode = s.shell.mode)
    (writer : s'.writer.fault = s.writer.fault) (written : s'.writer.written = s.writer.written) :
    s.Hushed s' :=
  ⟨mode, writer, [], by simp, by simpa using written⟩

theorem Hushed.trans (first : s.Hushed s') (second : s'.Hushed s'') : s.Hushed s'' := by
  obtain ⟨lines, others, written⟩ := first.lines
  obtain ⟨more, others', written'⟩ := second.lines
  refine ⟨second.mode.trans first.mode, second.fault.trans first.fault, lines ++ more, ?_, ?_⟩
  · intro line hm
    exact (List.mem_append.mp hm).elim (others line) (others' line)
  · rw [written', written, List.map_append, List.append_assoc]

private theorem Told.hushed {error : Option CommandError} (h : s.Told lines error s')
    (others : ∀ line ∈ lines, ¬ IsAnnouncing line) : s.Hushed s' := by
  obtain ⟨count, wrote, -⟩ := h.wrote
  exact ⟨by rw [h.shell], h.fault, lines.take count,
    fun line hm => others line (List.mem_of_mem_take hm), wrote.written⟩

private theorem Started.hushed {text : String} {child : Child} (h : s.Started text child s') :
    s.Hushed s' :=
  .of_same (by rw [h.shell]) h.fault h.written

private theorem listing_hushed (s : Session) (pid : Pid) (text : String) :
    s.Hushed (s.listing pid text) :=
  .of_same rfl rfl rfl

private theorem Executed.hushed {result : Except CommandError Status}
    (h : s.Executed command result s') : s.Hushed s' := by
  have status : ∀ line ∈ [s.shell.status.text], ¬ IsAnnouncing line := by
    simpa using not_isAnnouncing_text s.shell.status
  have started (pid : Pid) : ∀ line ∈ [startedLine pid], ¬ IsAnnouncing line := by
    simpa using (startedLine_isAboutJob pid).not_isAnnouncing
  cases h with
  | noWords | exited | nul => exact .of_same rfl rfl rfl
  | moved _ _ moved =>
    obtain ⟨cwd, dir, rfl⟩ := moved
    exact .of_same rfl rfl rfl
  | reported _ _ told => exact told.hushed status
  | unreported _ _ told => exact told.hushed status
  | unflushed _ _ told => exact told.hushed (by simp)
  | unspawned _ _ told => exact (told.hushed (by simp)).trans (.of_same rfl rfl rfl)
  | ended _ _ _ began => exact began.hushed
  | unanswered _ _ _ began => exact began.hushed
  | announced _ _ _ began _ told =>
    exact (began.hushed.trans (listing_hushed _ _ _)).trans (told.hushed (started _))
  | unannounced _ _ _ began _ told =>
    exact (began.hushed.trans (listing_hushed _ _ _)).trans (told.hushed (started _))

private theorem Stepped.hushed {error : Option CommandError} (h : s.Stepped step error s')
    (plain : step.IsPlain) (notSync : step ≠ .sync) : s.Hushed s' := by
  have complains (message : String) : ∀ line ∈ [complaint message], ¬ IsAnnouncing line := by
    simpa using not_isAnnouncing_complaint message
  have remembers (s : Session) (status : Status) : s.Hushed (s.remembering status) :=
    .of_same rfl rfl rfl
  cases h with
  | blank => exact .of_same rfl rfl rfl
  | refused _ told => exact told.hushed (complains _)
  | ran _ executed => exact executed.hushed.trans (remembers _ _)
  | broke _ executed => exact executed.hushed
  | failed _ executed _ told =>
    exact (executed.hushed.trans (told.hushed (complains _))).trans (remembers _ _)
  | untold _ executed _ told => exact executed.hushed.trans (told.hushed (complains _))
  | reported told =>
    have reaps : s.Hushed s.reaping := .of_same rfl rfl rfl
    refine reaps.trans (told.hushed fun line hm => ?_)
    obtain ⟨report, -, rfl⟩ := List.mem_map.mp hm
    exact (doneLine_isAboutJob report.1 report.2).not_isAnnouncing
  | unchanged | switched => exact absurd rfl notSync
  | around => exact .of_same rfl rfl rfl
  | writer => exact plain.elim

theorem Touches.numbered (h : s.Touches step s') (hn : s.machine.children.Numbered) :
    s'.machine.children.Numbered := by
  cases h with
  | spares _ _ spares => exact hn.live spares.children
  | runs _ _ affects =>
    cases affects with
    | spares _ spares => exact hn.live spares.children
    | exits _ children => exact hn.live children
    | waits adds => exact hn.joined adds.children
    | lists adds => exact hn.joined adds.children
  | reaps _ spares => exact (Registry.reap_numbered hn s.shell.jobs).live spares.children

private theorem after_announces (programs : Programs) (audible : s.Audible) (plain : step.IsPlain) :
    (s.after programs step).Audible ∧ ∃ texts,
      (s.after programs step).writer.written = s.writer.written ++ texts ∧
      s.Announces step texts (s.after programs step).shell.mode := by
  obtain ⟨error, s', hout, stepped⟩ := step_stepped programs plain.isSingle audible.numbered
  have numbered := stepped.touches.numbered audible.numbered
  rw [after, hout]
  by_cases sync : step = .sync
  · subst sync
    by_cases same : s.InMode
    · have runs : outcome syncMode s = (none, s) := by rw [outcome, same.syncMode_run]
      obtain ⟨-, rfl⟩ := Prod.mk.inj (runs.symm.trans hout)
      exact ⟨audible, [], by simp, .unchanged same⟩
    · rcases tell_run [s.machine.signals.requested.announcement]
        (s.switched s.machine.signals.requested) with ⟨u, hrun, told⟩ | ⟨_, _, -, told⟩
      · have runs : outcome syncMode s = (none, u) := by rw [outcome, syncMode_run same, hrun]
        obtain ⟨-, rfl⟩ := Prod.mk.inj (runs.symm.trans hout)
        obtain ⟨-, wrote⟩ := told.of_works audible.works
        refine ⟨⟨numbered, works_of_fault audible.works wrote.fault⟩, _, wrote.written, ?_⟩
        rw [wrote.shell]
        exact .switched same
      · cases (told.of_works audible.works).1
  · have hushed := stepped.hushed plain sync
    obtain ⟨lines, others, written⟩ := hushed.lines
    refine ⟨⟨numbered, works_of_fault audible.works hushed.fault⟩, _, written, ?_⟩
    rw [hushed.mode]
    refine .hushed sync (List.filterMap_eq_nil_iff.mpr fun text hm => ?_)
    obtain ⟨line, hline, rfl⟩ := List.mem_map.mp hm
    exact announced?_eq_none (others line hline)

/-- Each mode that is announced in a run is the other one of the mode before, and the last one is the
mode that the shell is left in. -/
theorem afterAll_announces (programs : Programs) (audible : s.Audible)
    (plain : ∀ step ∈ steps, step.IsPlain) :
    (s.afterAll programs steps).Audible ∧ ∃ texts,
      (s.afterAll programs steps).writer.written = s.writer.written ++ texts ∧
      List.IsChain (fun mode next => next = mode.toggled)
        (s.shell.mode :: texts.filterMap announced?) ∧
      (texts.filterMap announced?).getLastD s.shell.mode =
        (s.afterAll programs steps).shell.mode := by
  induction steps generalizing s with
  | nil => exact ⟨audible, [], by simp, by simp, rfl⟩
  | cons step rest ih =>
    obtain ⟨hstep, hrest⟩ := List.forall_mem_cons.mp plain
    obtain ⟨audible', first, written, announces⟩ := after_announces programs audible hstep
    obtain ⟨last, later, written', chain, ends⟩ := ih audible' hrest
    rw [afterAll_cons]
    refine ⟨last, first ++ later, by rw [written', written, List.append_assoc], ?_⟩
    rw [List.filterMap_append, ← ends]
    generalize (s.after programs step).shell.mode = mode at announces chain
    cases announces with
    | hushed notSync none =>
      rw [none]
      exact ⟨chain, rfl⟩
    | unchanged same => exact ⟨chain, rfl⟩
    | switched other =>
      have new : [s.machine.signals.requested.announcement ++ "\n"].filterMap announced? =
          [s.machine.signals.requested] := by
        simp [announced?_announcement]
      rw [new, List.singleton_append, List.getLastD_cons]
      exact ⟨List.isChain_cons_cons.mpr ⟨Mode.eq_toggled_of_ne other, chain⟩, rfl⟩

private theorem announced_eq
    (h : (s.afterAll programs steps).writer.written = s.writer.written ++ texts) :
    s.announced programs steps = texts.filterMap announced? := by
  rw [announced, said, h, List.drop_left]

private theorem mode_of_unsynced (programs : Programs) (audible : s.Audible)
    (plain : ∀ step ∈ steps, step.IsPlain) (unsynced : .sync ∉ steps) :
    (s.afterAll programs steps).shell.mode = s.shell.mode := by
  induction steps generalizing s with
  | nil => rfl
  | cons step rest ih =>
    obtain ⟨hstep, hrest⟩ := List.forall_mem_cons.mp plain
    rw [List.mem_cons, not_or] at unsynced
    obtain ⟨notSync, unsynced⟩ := unsynced
    obtain ⟨audible', first, -, announces⟩ := after_announces programs audible hstep
    rw [afterAll_cons, ih audible' hrest unsynced]
    generalize (s.after programs step).shell.mode = mode at announces
    cases announces with
    | hushed => rfl
    | unchanged | switched => exact absurd rfl notSync

private theorem signals_afterAll (programs : Programs) (audible : s.Audible)
    (plain : ∀ step ∈ steps, step.IsPlain) : (s.afterAll programs steps).machine.signals =
      s.machine.signals.afterAll (s.signalSteps programs steps) := by
  induction steps generalizing s with
  | nil => rfl
  | cons step rest ih =>
    obtain ⟨hstep, hrest⟩ := List.forall_mem_cons.mp plain
    rw [afterAll_cons, ih (after_announces programs audible hstep).1 hrest,
      signals_after programs audible.works hstep, signalSteps, SignalState.afterAll_append]

/-- The mode that is asked for is exchanged once for each flip. -/
theorem requested_of_flips (programs : Programs) (audible : s.Audible)
    (plain : ∀ step ∈ steps, step.IsPlain) :
    (s.afterAll programs steps).machine.signals.requested =
      Mode.toggled^[s.flips programs steps] s.machine.signals.requested := by
  rw [signals_afterAll programs audible plain]
  exact SignalState.requested_afterAll s.machine.signals fun mode =>
    set_notMem_signalSteps mode s steps

private theorem inMode_of_synced (programs : Programs) (audible : s.Audible) (inMode : s.InMode)
    (plain : ∀ step ∈ steps, step.IsPlain)
    (synced : steps = [] ∨ ∃ before, steps = before ++ [.sync]) :
    (s.afterAll programs steps).InMode := by
  obtain rfl | ⟨before, rfl⟩ := synced
  · exact inMode
  · obtain ⟨hbefore, hsync⟩ := List.forall_mem_append.mp plain
    have audible' := (afterAll_announces programs audible hbefore).1
    obtain ⟨-, _, -, announces⟩ :=
      after_announces programs audible' (hsync .sync List.mem_cons_self)
    have signals := signals_after programs audible'.works (hsync .sync List.mem_cons_self)
    rw [afterAll_append, afterAll_cons, afterAll_nil, InMode, signals]
    generalize ((s.afterAll programs before).after programs .sync).shell.mode = mode at announces
    cases announces with
    | hushed notSync => exact absurd rfl notSync
    | unchanged same => exact same
    | switched => rfl

private theorem toggled_iterate_eq_self (n : Nat) (mode : Mode) :
    Mode.toggled^[n] mode = mode ↔ ¬ Odd n := by
  have involutive : Function.Involutive Mode.toggled := Mode.toggled_toggled
  rcases n.even_or_odd with even | odd
  · simp [involutive.iterate_even even, even]
  · rw [involutive.iterate_odd odd]
    refine iff_of_false ?_ (not_not_intro odd)
    cases mode <;> decide

private theorem sync_after_flips (programs : Programs) (audible : s.Audible) (inMode : s.InMode)
    (plain : ∀ step ∈ steps, step.IsPlain) (unsynced : .sync ∉ steps) :
    let u := s.afterAll programs steps
    (u.after programs .sync).shell.mode = u.machine.signals.requested ∧
    u.said programs [.sync] =
      if Odd (s.flips programs steps) then [u.machine.signals.requested.announcement ++ "\n"]
      else [] := by
  intro u
  obtain ⟨audible', -⟩ := afterAll_announces programs audible plain
  have parity : u.InMode ↔ ¬ Odd (s.flips programs steps) := by
    rw [InMode, requested_of_flips programs audible plain, inMode,
      mode_of_unsynced programs audible plain unsynced, toggled_iterate_eq_self]
  have isPlain : SessionStep.sync.IsPlain := trivial
  obtain ⟨-, texts, written, announces⟩ := after_announces programs audible' isPlain
  have said : u.said programs [.sync] = texts := by
    rw [Session.said, afterAll_cons, afterAll_nil, written, List.drop_left]
  rw [said]
  generalize (u.after programs .sync).shell.mode = taken at announces ⊢
  cases announces with
  | hushed notSync => exact absurd rfl notSync
  | unchanged same => exact ⟨same.symm, (if_neg (parity.mp same)).symm⟩
  | switched other => exact ⟨rfl, (if_pos (not_not.mp (mt parity.mpr other))).symm⟩

/-- What the line of a command leaves to its own run: the job and the child, and what was written if
the command goes well. -/
private theorem line_executed (programs : Programs) (numbered : s.machine.children.Numbered)
    {line : String} (parses : parse line s.pid = .ok (some command)) :
    ∃ result between, s.Executed command result between ∧
      (s.after programs (.line line)).shell.jobs = between.shell.jobs ∧
      (s.after programs (.line line)).machine.children = between.machine.children ∧
      ∀ status, result = .ok status → (s.after programs (.line line)).writer = between.writer := by
  have isSingle : (SessionStep.line line).IsSingle := trivial
  obtain ⟨error, s', hout, stepped⟩ := step_stepped programs isSingle numbered
  rw [after, hout]
  cases stepped with
  | blank other => cases parses.symm.trans other
  | refused other => cases parses.symm.trans other
  | ran other executed =>
    cases parses.symm.trans other
    exact ⟨_, _, executed, rfl, rfl, fun _ _ => rfl⟩
  | broke other executed =>
    cases parses.symm.trans other
    refine ⟨_, _, executed, rfl, rfl, fun status ended => ?_⟩
    cases ended
  | failed other executed _ told | untold other executed _ told =>
    cases parses.symm.trans other
    have jobs := congrArg Shell.jobs told.shell
    refine ⟨_, _, executed, jobs, told.children, fun status ended => ?_⟩
    cases ended
  | around _ around => exact around.elim

private theorem Executed.untouched_of_refused {result : Except CommandError Status}
    (h : s.Executed command result s') (external : command.IsExternal)
    (refused : s.refusal s.forks ≠ none) :
    s'.shell.jobs = s.shell.jobs ∧ s'.machine.children = s.machine.children := by
  obtain ⟨-, untouched⟩ | ⟨granted, -⟩ := h.external_cases external
  · exact untouched
  · exact absurd granted refused

/-- Whether a program runs in the background depends on its mark and the mode of the shell. -/
theorem mark_by_mode (programs : Programs) (audible : s.Audible) {line : String}
    (parses : parse line s.pid = .ok (some command)) (external : command.IsExternal)
    (noNul : hasNul command.argv = false) :
    let after := s.after programs (.line line)
    let pid := s.machine.children.next
    if (s.refusal s.forks).isSome then
      after.shell.jobs = s.shell.jobs ∧ after.machine.children = s.machine.children
    else if command.background = true ∧ s.shell.mode = .interactive then
      after.shell.jobs = s.shell.jobs.insert pid command.text ∧
      s.said programs [.line line] = [startedLine pid ++ "\n"] ∧
      ∃ state, after.machine.children.state? pid = some state ∧ state.isHeld = true
    else
      after.shell.jobs = s.shell.jobs ∧
      ∃ ending, after.machine.children.state? pid = some (.gone ending) := by
  intro after pid
  obtain ⟨result, between, executed, jobs, children, written⟩ :=
    line_executed programs audible.numbered parses
  have marked : (command.background = true ∧ s.shell.mode = .interactive) ↔
      (command.background && s.shell.mode.allowsBackground) = true := by
    simp [Mode.allowsBackground]
  rw [jobs, children]
  by_cases refused : (s.refusal s.forks).isSome
  · rw [if_pos refused]
    exact executed.untouched_of_refused external (Option.isSome_iff_ne_none.mp refused)
  rw [if_neg refused]
  have granted : s.refusal s.forks = none := Option.not_isSome_iff_eq_none.mp refused
  obtain ⟨foreground, child, ending, started, gone, -⟩ |
    ⟨background, child, first, error, started, held, told⟩ :=
      executed.of_external external noNul (audible.works _ _) granted
  · rw [if_neg (by simp [marked, foreground]), started.shell]
    have number : child.pid = pid := started.children.number
    refine ⟨rfl, ending, ?_⟩
    rw [← number, started.children.state?_self audible.numbered, gone]
  · rw [if_pos (marked.mpr background)]
    obtain ⟨-, wrote⟩ := told.of_works (works_of_fault audible.works started.fault)
    have number : child.pid = pid := started.children.number
    refine ⟨?_, ?_, child.state, ?_, held⟩
    · rw [wrote.shell, listing, started.shell, number]
    · -- A background command fails only if the writer does, so nothing is said after its number.
      cases result with
      | error e =>
        have notLaunched := (executed.speaks_error audible.works parses).2.2.2
        exact (notLaunched ⟨external, noNul, background, granted⟩).elim
      | ok status =>
        rw [Session.said, afterAll_cons, afterAll_nil, written status rfl, wrote.written, ← number]
        simp [listing, started.written]
    · rw [told.children, ← number]
      exact started.children.state?_self audible.numbered

/-- The mode changes only where the shell takes on the mode that is asked for, and each change is
told there, once. For a run that begins in the mode that is asked for, and its part since the last
such place: the mode is the one that was asked for at that place, whatever was asked for since; the
next such place says nothing if the mode was exchanged an even number of times since, and otherwise
announces the mode that the shell then is in. The announcements of the run exchange the mode in turn,
from the one at the start to the one at the end. Whether a mark is honoured depends on the mode at
that place only, and neither mark nor mode matters if the system refuses another process. -/
theorem modes_announced (programs : Programs) (numbered : s.machine.children.Numbered)
    (works : s.writer.Works) (inMode : s.InMode) {earlier since : List SessionStep}
    (plain : ∀ step ∈ earlier ++ since, step.IsPlain)
    (synced : earlier = [] ∨ ∃ before, earlier = before ++ [.sync]) (unsynced : .sync ∉ since) :
    let place := s.afterAll programs earlier
    let now := place.afterAll programs since
    now.shell.mode = place.machine.signals.requested ∧
    (now.after programs .sync).shell.mode = now.machine.signals.requested ∧
    now.said programs [.sync] =
      (if Odd (place.flips programs since) then
        [now.machine.signals.requested.announcement ++ "\n"]
      else []) ∧
    List.IsChain (fun mode next => next = mode.toggled)
      (s.shell.mode :: s.announced programs (earlier ++ since)) ∧
    (s.announced programs (earlier ++ since)).getLastD s.shell.mode = now.shell.mode ∧
    ∀ line command, parse line now.pid = .ok (some command) → command.IsExternal →
      hasNul command.argv = false →
      let after := now.after programs (.line line)
      let pid := now.machine.children.next
      if (now.refusal now.forks).isSome then
        after.shell.jobs = now.shell.jobs ∧ after.machine.children = now.machine.children
      else if command.background = true ∧ place.machine.signals.requested = .interactive then
        after.shell.jobs = now.shell.jobs.insert pid command.text ∧
        now.said programs [.line line] = [startedLine pid ++ "\n"] ∧
        ∃ state, after.machine.children.state? pid = some state ∧ state.isHeld = true
      else
        after.shell.jobs = now.shell.jobs ∧
        ∃ ending, after.machine.children.state? pid = some (.gone ending) := by
  intro place now
  have audible : s.Audible := ⟨numbered, works⟩
  obtain ⟨hearlier, hsince⟩ := List.forall_mem_append.mp plain
  obtain ⟨atPlace, -⟩ := afterAll_announces programs audible hearlier
  obtain ⟨atNow, -⟩ := afterAll_announces programs atPlace hsince
  have placeMode : place.machine.signals.requested = place.shell.mode :=
    inMode_of_synced programs audible inMode hearlier synced
  have mode : now.shell.mode = place.machine.signals.requested :=
    (mode_of_unsynced programs atPlace hsince unsynced).trans placeMode.symm
  obtain ⟨taken, said⟩ := sync_after_flips programs atPlace placeMode hsince unsynced
  obtain ⟨-, texts, written, chain, ends⟩ := afterAll_announces programs audible plain
  rw [announced_eq written]
  refine ⟨mode, taken, said, chain, ?_, fun line command parses external noNul => ?_⟩
  · rw [ends, afterAll_append]
  · rw [← mode]
    exact mark_by_mode programs atNow parses external noNul

def nagging : Programs := fun launch =>
  .doing (fun scene => { store := scene.store, sent := [(launch.parent, .terminalStop)] })
    fun _ => .exited 0

def nagged : Session :=
  equipped.afterAll nagging [.line "/x", .sync]

private theorem nagged_signals : nagged.machine.signals = .ofMode .foregroundOnly := by
  decide +kernel

private theorem nagged_written :
    nagged.writer.written = ["Entering foreground-only mode (& is now ignored)\n"] := by
  decide +kernel

/-- The child of the first line asks for the other mode while it is waited for. That is taken on and
told after its end. When a signal asks for the first mode again, a mark has no effect until that is
taken on too. -/
theorem modes_announced_nagging :
    let now := nagged.afterAll nagging [.signal .stop]
    equipped.announced nagging ([.line "/x", .sync] ++ [.signal .stop]) = [.foregroundOnly] ∧
      now.said nagging [.sync] = ["Exiting foreground-only mode\n"] ∧
      (now.after nagging (.line "/x &")).shell.jobs = now.shell.jobs := by
  intro now
  have parses : parse "/x &" now.pid = .ok (some
      { argv := ["/x"], background := true, text := "/x &" }) := by decide +kernel
  have numbered : equipped.machine.children.Numbered :=
    ⟨by simp [equipped, Machine.boot, Children.pids], nofun, nofun, by decide⟩
  have plain : ∀ step ∈ [.line "/x", .sync] ++ [.signal .stop], SessionStep.IsPlain step := by
    simp [SessionStep.IsPlain]
  have run := modes_announced nagging numbered (fun _ _ => rfl) rfl plain
    (.inr ⟨[.line "/x"], rfl⟩) (by simp)
  rw [← nagged] at run
  obtain ⟨-, -, said, -, -, mark⟩ := run
  have odd : nagged.flips nagging [.signal .stop] = 1 := by
    rw [flips, nagged_signals]
    rfl
  have requested : now.machine.signals.requested = .interactive := by
    rw [show now.machine.signals = nagged.machine.signals.raise .stop from rfl, nagged_signals]
    rfl
  refine ⟨?_, ?_, ?_⟩
  · have written : (equipped.afterAll nagging
        ([.line "/x", .sync] ++ [.signal .stop])).writer.written =
          equipped.writer.written ++ nagged.writer.written := rfl
    rw [announced_eq written, nagged_written]
    decide
  · rw [said, odd, if_pos odd_one]
    exact congrArg (fun mode : Mode => [mode.announcement ++ "\n"]) requested
  · have waited := mark "/x &" _ parses ⟨by simp, by decide⟩ (by decide)
    have granted : now.refusal now.forks = none := by decide +kernel
    rw [granted, nagged_signals] at waited
    exact waited.1

end JobShell.Session
