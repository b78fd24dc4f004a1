import JobShell.Proofs.Lines
import JobShell.Proofs.Records
import Mathlib.Data.List.Count

/-!
What a shell with a working writer says in each step, and in several. A line that starts a
background job announces it and a report tells of the jobs that have ended; nothing else that is
said could be taken for either.
-/

namespace JobShell

/-- A step that is not made of others and leaves the writer as it is. -/
def SessionStep.IsPlain : SessionStep → Prop
  | .lines _ | .writer _ => False
  | _ => True

theorem SessionStep.IsPlain.isSingle {step : SessionStep} (plain : step.IsPlain) :
    step.IsSingle := by
  cases step <;> first | exact plain | trivial

namespace Session

def said (programs : Programs) (s : Session) (steps : List SessionStep) : List String :=
  (s.afterAll programs steps).writer.written.drop s.writer.written.length

inductive Speaks (s : Session) : SessionStep → List String → Prop
  | report : Speaks s .report s.doneLines
  | start {line : String} {command : Command} (parses : parse line s.pid = .ok (some command))
      (launches : s.Launches command) : Speaks s (.line line) [startedLine s.machine.children.next]
  | other {step : SessionStep} {lines : List String} (notReport : step ≠ .report)
      (notStart : ∀ pid, ¬ s.Starts step pid) (others : ∀ line ∈ lines, ¬ IsAboutJob line) :
      Speaks s step lines

variable {s s' between : Session} {command : Command} {step : SessionStep} {line : String}
  {lines : List String} {pid : Pid} {job : Job} {status : Status}

theorem works_of_fault (works : s.writer.Works) (h : s'.writer.fault = s.writer.fault) :
    s'.writer.Works := by
  rwa [Writer.Works, h]

private theorem not_starts (parses : parse line s.pid = .ok (some command))
    (h : ¬ s.Launches command) (pid : Pid) : ¬ s.Starts (.line line) pid := by
  rintro ⟨_, other, ⟨⟩, hparse, launches, _⟩
  obtain rfl : command = other := by
    simpa using parses.symm.trans hparse
  exact h launches

theorem not_launches {name : Builtin} (h : Builtin.ofName? command.name = some name) :
    ¬ s.Launches command := fun launches => by
  simp [launches.external.name] at h

private theorem Executed.speaks_ok (h : s.Executed command (.ok status) s')
    (works : s.writer.Works) (words : command.argv ≠ []) :
    ∃ lines, s'.writer.written = s.writer.written ++ lines.map (· ++ "\n") ∧
      s'.writer.fault = s.writer.fault ∧
      (∀ line ∈ lines, IsLine line) ∧
      (lines = [startedLine s.machine.children.next] ∧ s.Launches command ∨
        ¬ s.Launches command ∧ ∀ line ∈ lines, ¬ IsAboutJob line) := by
  cases h with
  | noWords none => exact absurd none words
  | exited isExit =>
    exact ⟨[], by simp [Session.exited], rfl, by simp, .inr ⟨not_launches isExit.name, by simp⟩⟩
  | moved _ name moved =>
    obtain ⟨cwd, dir, rfl⟩ := moved
    exact ⟨[], by simp, rfl, by simp, .inr ⟨not_launches name, by simp⟩⟩
  | reported _ name told =>
    obtain ⟨_, wrote⟩ := told.of_works works
    refine ⟨_, wrote.written, wrote.fault, ?_, .inr ⟨not_launches name, ?_⟩⟩
    · simpa using isLine_text s.shell.status
    · simpa using not_isAboutJob_text s.shell.status
  | ended external noNul foreground started =>
    refine ⟨[], by simp [started.written], started.fault, by simp,
      .inr ⟨fun launches => ?_, by simp⟩⟩
    simpa [foreground] using launches.background
  | announced external noNul background started held told granted =>
    have fault := started.fault
    obtain ⟨_, wrote⟩ := told.of_works (works_of_fault works fault)
    rw [← started.children.number]
    refine ⟨_, ?_, wrote.fault.trans fault, ?_, .inl ⟨rfl, external, noNul, background, granted⟩⟩
    · rw [wrote.written]
      simp [listing, started.written]
    · simpa using isLine_startedLine _

/-- A command that fails although the writer works has said nothing. -/
theorem Executed.speaks_error {e : CommandError} (h : s.Executed command (.error e) s')
    (works : s.writer.Works) (parses : parse line s.pid = .ok (some command)) :
    s'.writer.written = s.writer.written ∧ s'.writer.fault = s.writer.fault ∧
      IsLine e.message ∧ ¬ s.Launches command := by
  cases h with
  | unreported _ name told => cases (told.of_works works).1
  | nul external hasNul =>
    refine ⟨rfl, rfl, isLine_nulInArgument parses, fun launches => ?_⟩
    simpa [hasNul] using launches.noNul
  | unflushed external noNul told => cases (told.of_works works).1
  | unspawned external noNul told refuses =>
    obtain ⟨-, wrote⟩ := told.of_works works
    refine ⟨by simp [forked, wrote.written], wrote.fault, isLine_spawn _, fun launches => ?_⟩
    simp [launches.granted] at refuses
  | unanswered external noNul foreground started =>
    refine ⟨started.written, started.fault, isLine_wait _ _, fun launches => ?_⟩
    simpa [foreground] using launches.background
  | unannounced external noNul background started held told =>
    cases (told.of_works (works_of_fault works started.fault)).1

private theorem Stepped.speaks {error : Option CommandError} (h : s.Stepped step error s')
    (works : s.writer.Works) (plain : step.IsPlain) :
    ∃ lines, s.Speaks step lines ∧ (∀ line ∈ lines, IsLine line) ∧
      s'.writer.written = s.writer.written ++ lines.map (· ++ "\n") ∧
      s'.writer.fault = s.writer.fault := by
  have complaintOnly (message : String) : ∀ line ∈ [complaint message], ¬ IsAboutJob line := by
    simpa using not_isAboutJob_complaint message
  have isLine {text : String} (h : IsLine text) : ∀ line ∈ [text], IsLine line := by
    simpa using h
  have silent {line : String} (h : ∀ command, parse line s.pid ≠ .ok (some command)) (pid : Pid) :
      ¬ s.Starts (.line line) pid := by
    rintro ⟨_, command, ⟨⟩, hparse, _⟩
    exact h command hparse
  cases h with
  | blank parses =>
    exact ⟨[], .other (by simp) (silent (by simp [parses])) (by simp), by simp, by simp, rfl⟩
  | @refused line e error s' parses told =>
    obtain ⟨_, wrote⟩ := told.of_works works
    exact ⟨_, .other (by simp) (silent (by simp [parses])) (complaintOnly e.message),
      isLine (isLine_complaint (isLine_parseError e)), wrote.written, wrote.fault⟩
  | ran parses executed =>
    obtain ⟨lines, written, fault, areLines, ⟨rfl, launches⟩ | ⟨notLaunches, others⟩⟩ :=
      executed.speaks_ok works (argv_ne_nil_of_parse parses)
    · exact ⟨_, .start parses launches, areLines, written, fault⟩
    · exact ⟨_, .other (by simp) (not_starts parses notLaunches) others, areLines, written, fault⟩
  | broke parses executed =>
    obtain ⟨written, fault, _, notLaunches⟩ := executed.speaks_error works parses
    exact ⟨[], .other (by simp) (not_starts parses notLaunches) (by simp), by simp,
      by simp [written], fault⟩
  | @failed line command e between s' parses executed other told =>
    obtain ⟨written, fault, isMessage, notLaunches⟩ := executed.speaks_error works parses
    obtain ⟨_, wrote⟩ := told.of_works (works_of_fault works fault)
    refine ⟨_, .other (by simp) (not_starts parses notLaunches) (complaintOnly e.message),
      isLine (isLine_complaint isMessage), ?_, wrote.fault.trans fault⟩
    exact wrote.written.trans (by rw [written])
  | untold parses executed other told =>
    obtain ⟨_, fault, _⟩ := executed.speaks_error works parses
    cases (told.of_works (works_of_fault works fault)).1
  | reported told =>
    obtain ⟨_, wrote⟩ := told.of_works works
    refine ⟨_, .report, fun line hm => ?_, wrote.written, wrote.fault⟩
    obtain ⟨report, _, rfl⟩ := List.mem_map.mp hm
    exact isLine_doneLine report.1 report.2
  | unchanged =>
    exact ⟨[], .other (by simp) (by simp [Starts]) (by simp), by simp, by simp, rfl⟩
  | switched told =>
    obtain ⟨_, wrote⟩ := told.of_works works
    refine ⟨_, .other (by simp) (by simp [Starts]) ?_, isLine (isLine_announcement _),
      wrote.written, wrote.fault⟩
    simpa using not_isAboutJob_announcement s.machine.signals.requested
  | around elapses around =>
    refine ⟨[], .other ?_ ?_ (by simp), by simp, by simp, rfl⟩
    · rintro rfl
      exact around
    · rintro pid ⟨_, command, rfl, _⟩
      exact around
  | writer => exact plain.elim

private theorem Speaks.mem_started (h : s.Speaks step lines) :
    startedLine pid ∈ lines ↔ s.Starts step pid := by
  cases h with
  | report =>
    refine iff_of_false ?_ (by simp [Starts])
    intro hm
    obtain ⟨entry, _, he⟩ := List.mem_map.mp hm
    exact startedLine_ne_doneLine he.symm
  | @start line command parses launches =>
    rw [List.mem_singleton]
    refine ⟨fun h => ⟨line, command, rfl, parses, launches, startedLine_injective h⟩, ?_⟩
    rintro ⟨_, _, _, _, _, hpid⟩
    rw [hpid]
  | other notReport notStart others =>
    exact iff_of_false (fun hm => others _ hm (startedLine_isAboutJob pid)) (notStart pid)

private theorem Speaks.mem_done (h : s.Speaks step lines) :
    doneLine job status ∈ lines ↔ step = .report ∧ doneLine job status ∈ s.doneLines := by
  cases h with
  | report => simp
  | start =>
    refine iff_of_false ?_ (by simp)
    rw [List.mem_singleton]
    exact startedLine_ne_doneLine.symm
  | other notReport notStart others =>
    exact iff_of_false (fun hm => others _ hm (doneLine_isAboutJob job status))
      fun h => notReport h.1

/-! What the lines of a report are. -/

private theorem mem_doneLines_iff : doneLine job status ∈ s.doneLines ↔
    ∃ entry ∈ s.reports, entry.1.pid = job.pid ∧ entry.2 = status := by
  rw [doneLines, List.mem_map]
  exact exists_congr fun entry => and_congr_right fun _ => doneLine_inj

/-- The job of a child is on record when the end of the child is reported, and only then. -/
theorem Tracked.mem_doneLines (hs : s.Tracked) : doneLine job status ∈ s.doneLines ↔
    s.OnRecord job.pid ∧ ∃ ending, s.ending? job.pid = some ending ∧ ending.isNamed = true ∧
      status = ending.status := by
  rw [mem_doneLines_iff]
  constructor
  · rintro ⟨entry, hm, hpid, rfl⟩
    exact ⟨⟨entry.1, hs.reports_sublist.subset (List.mem_map_of_mem hm), hpid⟩,
      hpid ▸ hs.ending?_of_mem_reports hm⟩
  · rintro ⟨⟨found, hfound, hpid⟩, ending, hend, named, rfl⟩
    exact hpid ▸ hs.exists_report hfound (hpid ▸ hend) named

private theorem Tracked.doneLines_nodup (hs : s.Tracked) : s.doneLines.Nodup := by
  refine List.pairwise_map.mpr ((List.pairwise_map.mp hs.reports_nodup).imp ?_)
  rintro ⟨first, _⟩ ⟨second, _⟩ hne he
  exact hne (doneLine_inj.mp he).1

/-! Over several steps. -/

variable {programs : Programs} {steps : List SessionStep}

private theorem after_speaks (programs : Programs) (hs : s.Tracked) (works : s.writer.Works)
    (plain : step.IsPlain) : ∃ lines, s.Speaks step lines ∧ (∀ line ∈ lines, IsLine line) ∧
      (s.after programs step).writer.written = s.writer.written ++ lines.map (· ++ "\n") ∧
      (s.after programs step).writer.fault = s.writer.fault := by
  obtain ⟨error, s', hout, stepped⟩ := step_stepped programs plain.isSingle hs.numbered
  rw [after, hout]
  exact stepped.speaks works plain

/-- What is said in one step, as lines. -/
theorem said_step (programs : Programs) (hs : s.Tracked) (works : s.writer.Works)
    (plain : step.IsPlain) :
    ∃ lines, s.Speaks step lines ∧ (∀ line ∈ lines, IsLine line) ∧
      s.said programs [step] = lines.map (· ++ "\n") := by
  obtain ⟨lines, speaks, areLines, written, _⟩ := after_speaks programs hs works plain
  refine ⟨lines, speaks, areLines, ?_⟩
  rw [said, afterAll_cons, afterAll_nil, written, List.drop_left]

theorem plain_afterAll (programs : Programs) (hs : s.Tracked) (works : s.writer.Works)
    (plain : ∀ step ∈ steps, step.IsPlain) : (s.afterAll programs steps).writer.Works ∧
      s.writer.written <+: (s.afterAll programs steps).writer.written := by
  induction steps generalizing s with
  | nil => exact ⟨works, List.prefix_refl _⟩
  | cons step rest ih =>
    obtain ⟨hstep, hrest⟩ := List.forall_mem_cons.mp plain
    obtain ⟨lines, _, _, written, fault⟩ := after_speaks programs hs works hstep
    have touches := after_touches programs hstep.isSingle hs
    obtain ⟨hworks, hprefix⟩ :=
      ih (touches.tracked hs) (works_of_fault works fault) hrest
    exact ⟨hworks, (written ▸ List.prefix_append _ _).trans hprefix⟩

theorem said_cons (programs : Programs) (hs : s.Tracked) (works : s.writer.Works)
    (plain : ∀ one ∈ step :: steps, one.IsPlain) : s.said programs (step :: steps) =
      s.said programs [step] ++ (s.after programs step).said programs steps := by
  obtain ⟨hstep, hrest⟩ := List.forall_mem_cons.mp plain
  obtain ⟨lines, _, _, written, fault⟩ := after_speaks programs hs works hstep
  have touches := after_touches programs hstep.isSingle hs
  obtain ⟨_, later, hlater⟩ := plain_afterAll programs (touches.tracked hs)
    (works_of_fault works fault) hrest
  have first : s.said programs [step] = lines.map (· ++ "\n") := by
    rw [said, afterAll_cons, afterAll_nil, written, List.drop_left]
  have rest : (s.after programs step).said programs steps = later := by
    rw [said, ← hlater, List.drop_left]
  rw [first, rest, said, afterAll_cons, ← hlater, written, List.append_assoc, List.drop_left]

/-- What is said in some steps is said in one of them. -/
theorem mem_said (programs : Programs) (hs : s.Tracked) (works : s.writer.Works)
    (plain : ∀ step ∈ steps, step.IsPlain) {text : String} (hm : text ∈ s.said programs steps) :
    ∃ before step after, steps = before ++ step :: after ∧
      text ∈ (s.afterAll programs before).said programs [step] := by
  induction steps generalizing s with
  | nil => simp [said] at hm
  | cons step rest ih =>
    obtain ⟨hstep, hrest⟩ := List.forall_mem_cons.mp plain
    rw [said_cons programs hs works plain] at hm
    rcases List.mem_append.mp hm with hm | hm
    · exact ⟨[], step, rest, rfl, hm⟩
    · obtain ⟨_, _, _, _, fault⟩ := after_speaks programs hs works hstep
      have touches := after_touches programs hstep.isSingle hs
      obtain ⟨before, next, after, rfl, hnext⟩ :=
        ih (touches.tracked hs) (works_of_fault works fault) hrest hm
      exact ⟨step :: before, next, after, rfl, hnext⟩

/-- What is said at most once in each step, and not in two steps, is said at most once. -/
theorem count_said_le_one (programs : Programs) (hs : s.Tracked)
    (works : s.writer.Works) (plain : ∀ step ∈ steps, step.IsPlain) {text : String}
    (once : ∀ before step after, steps = before ++ step :: after →
      ((s.afterAll programs before).said programs [step]).count text ≤ 1)
    (apart : ∀ before step middle next after, steps = before ++ step :: (middle ++ next :: after) →
      text ∈ (s.afterAll programs before).said programs [step] →
      text ∉ (s.afterAll programs (before ++ step :: middle)).said programs [next]) :
    (s.said programs steps).count text ≤ 1 := by
  induction steps generalizing s with
  | nil => simp [said]
  | cons step rest ih =>
    obtain ⟨hstep, hrest⟩ := List.forall_mem_cons.mp plain
    obtain ⟨_, _, _, _, fault⟩ := after_speaks programs hs works hstep
    have hs' := (after_touches programs hstep.isSingle hs).tracked hs
    have works' := works_of_fault works fault
    have first := once [] step rest rfl
    rw [said_cons programs hs works plain, List.count_append]
    by_cases hm : text ∈ s.said programs [step]
    · have hnone : ((s.after programs step).said programs rest).count text = 0 := by
        refine List.count_eq_zero.mpr fun hlater => ?_
        obtain ⟨middle, next, after, rfl, hnext⟩ := mem_said programs hs' works' hrest hlater
        exact apart [] step middle next after rfl hm hnext
      rw [hnone]
      exact first
    · rw [List.count_eq_zero.mpr hm, Nat.zero_add]
      refine ih hs' works' hrest (fun before next after hsplit => ?_)
        fun before next middle last after hsplit => ?_
      · exact once (step :: before) next after (by rw [hsplit]; rfl)
      · exact apart (step :: before) next middle last after (by rw [hsplit]; rfl)

private theorem mem_lines {text : String} :
    text ++ "\n" ∈ lines.map (· ++ "\n") ↔ text ∈ lines := by
  refine ⟨fun hm => ?_, List.mem_map_of_mem⟩
  obtain ⟨other, ho, he⟩ := List.mem_map.mp hm
  rwa [← (String.append_left_inj _).mp he]

theorem mem_said_started (programs : Programs) (hs : s.Tracked)
    (works : s.writer.Works) (plain : step.IsPlain) :
    startedLine pid ++ "\n" ∈ s.said programs [step] ↔ s.Starts step pid := by
  obtain ⟨lines, speaks, _, hsaid⟩ := said_step programs hs works plain
  rw [hsaid, mem_lines, speaks.mem_started]

theorem mem_said_done (programs : Programs) (hs : s.Tracked) (works : s.writer.Works)
    (plain : step.IsPlain) : doneLine job status ++ "\n" ∈ s.said programs [step] ↔
      step = .report ∧ s.OnRecord job.pid ∧ ∃ ending, s.ending? job.pid = some ending ∧
        ending.isNamed = true ∧ status = ending.status := by
  obtain ⟨lines, speaks, _, hsaid⟩ := said_step programs hs works plain
  rw [hsaid, mem_lines, speaks.mem_done, hs.mem_doneLines]

theorem Speaks.count_le_one (h : s.Speaks step lines) (hs : s.Tracked) {text : String}
    (about : IsAboutJob text) : (lines.map (· ++ "\n")).count (text ++ "\n") ≤ 1 := by
  have hcount : (lines.map (· ++ "\n")).count (text ++ "\n") = lines.count text :=
    List.count_map_of_injective _ _ (fun _ _ he => (String.append_left_inj _).mp he) _
  rw [hcount]
  cases h with
  | report => exact List.nodup_iff_count_le_one.mp hs.doneLines_nodup text
  | start => exact List.nodup_iff_count_le_one.mp (List.nodup_singleton _) text
  | other notReport notStart others =>
    rw [List.count_eq_zero.mpr fun hm => others text hm about]
    exact Nat.zero_le 1

end Session

end JobShell
