import JobShell.Proofs.Accounts
import JobShell.Proofs.Speech

/-!
What becomes of the background jobs of a shell with a working writer. Each is announced once, by the
line that starts it, and its end is reported once, by the first report that comes after it.
-/

namespace JobShell.Session

variable {programs : Programs} {s s' : Session} {step : SessionStep} {steps : List SessionStep}
  {pid : Pid} {job : Job} {status : Status}

private theorem Stepped.start {error : Option CommandError} (h : s.Stepped step error s')
    (works : s.writer.Works) (starts : s.Starts step pid) :
    s'.OnRecord pid ∧ s'.machine.children.next = pid + 1 := by
  obtain ⟨line, command, rfl, hparse, launches, rfl⟩ := starts
  have same {other : Command} (parses : parse line s.pid = .ok (some other)) : other = command := by
    simpa using parses.symm.trans hparse
  cases h with
  | blank parses => simp [parses] at hparse
  | refused parses told => simp [parses] at hparse
  | @ran _ other _ t parses executed =>
    obtain rfl := same parses
    cases executed with
    | noWords none => exact absurd none launches.external.words
    | exited isExit => exact absurd launches (not_launches isExit.name)
    | moved _ name => exact absurd launches (not_launches name)
    | reported _ name => exact absurd launches (not_launches name)
    | ended external noNul foreground => simpa [foreground] using launches.background
    | @announced between _ child external noNul background started held told =>
      have hmem : ⟨child.pid, other.text⟩ ∈ t.shell.jobs := by
        rw [told.spares.jobs]
        exact List.mem_cons_self
      exact ⟨⟨_, hmem, started.children.number⟩,
        told.spares.children.next.trans started.children.next⟩
  | broke parses executed =>
    obtain rfl := same parses
    exact absurd launches (executed.speaks_error works parses).2.2.2
  | failed parses executed =>
    obtain rfl := same parses
    exact absurd launches (executed.speaks_error works parses).2.2.2
  | untold parses executed =>
    obtain rfl := same parses
    exact absurd launches (executed.speaks_error works parses).2.2.2
  | around elapses around => exact around.elim

/-- One of the steps started the job with this number, and nothing took it off record since: neither
an `exit` nor a report after its end. -/
def Unreported (programs : Programs) (s : Session) (steps : List SessionStep) (pid : Pid) : Prop :=
  ∃ earlier first between, steps = earlier ++ first :: between ∧
    (s.afterAll programs earlier).Starts first pid ∧
    (∀ middle line later, between = middle ++ .line line :: later →
      ¬ (s.afterAll programs (earlier ++ first :: middle)).ExitLine line) ∧
    ∀ middle later, between = middle ++ .report :: later →
      (s.afterAll programs (earlier ++ first :: middle)).ending? pid = none

private theorem single_of_plain (plain : ∀ step ∈ steps, step.IsPlain) :
    ∀ step ∈ steps, step.IsSingle :=
  fun step hm => (plain step hm).isSingle

private theorem after_start (programs : Programs) (hs : s.Tracked) (works : s.writer.Works)
    (plain : step.IsPlain) (starts : s.Starts step pid) :
    (s.after programs step).OnRecord pid ∧
      (s.after programs step).machine.children.next = pid + 1 := by
  obtain ⟨error, s', hout, stepped⟩ := step_stepped programs plain.isSingle hs.numbered
  rw [after, hout]
  exact stepped.start works starts

private theorem afterAll_split (programs : Programs) (s : Session)
    (earlier later : List SessionStep) (step : SessionStep) :
    s.afterAll programs (earlier ++ step :: later) =
      ((s.afterAll programs earlier).after programs step).afterAll programs later := by
  rw [afterAll_append, afterAll_cons]

private theorem lt_next_of_started (programs : Programs) (fresh : s.Fresh) (works : s.writer.Works)
    {earlier middle : List SessionStep} (plain : ∀ one ∈ earlier ++ step :: middle, one.IsPlain)
    (starts : (s.afterAll programs earlier).Starts step pid) :
    pid < (s.afterAll programs (earlier ++ step :: middle)).machine.children.next := by
  obtain ⟨hearlier, hrest⟩ := List.forall_mem_append.mp plain
  obtain ⟨hstep, hmiddle⟩ := List.forall_mem_cons.mp hrest
  have hs := afterAll_tracked programs fresh.tracked earlier
  have works' := (plain_afterAll programs fresh.tracked works hearlier).1
  have hle := next_le_afterAll programs (single_of_plain hmiddle)
    ((after_touches programs hstep.isSingle hs).tracked hs)
  rw [(after_start programs hs works' hstep starts).2, ← afterAll_split] at hle
  exact Int.lt_of_lt_of_le (Int.lt_succ pid) hle

private theorem not_onRecord_of_off (programs : Programs) (hs : s.Tracked)
    (plain : ∀ one ∈ step :: steps, one.IsPlain) (old : pid < s.machine.children.next)
    (off : ¬ (s.after programs step).OnRecord pid) :
    ¬ (s.afterAll programs (step :: steps)).OnRecord pid := by
  obtain ⟨hstep, hsteps⟩ := List.forall_mem_cons.mp plain
  have touches := after_touches programs hstep.isSingle hs
  rw [afterAll_cons]
  exact not_onRecord_afterAll programs (single_of_plain hsteps) (touches.tracked hs)
    (Int.lt_of_lt_of_le old (touches.next_le hs)) off

private theorem unreported_of_onRecord (programs : Programs) (fresh : s.Fresh)
    (works : s.writer.Works) (plain : ∀ step ∈ steps, step.IsPlain) {ending : Ending}
    (hend : (s.afterAll programs steps).ending? pid = some ending) (named : ending.isNamed = true)
    (after : (s.afterAll programs steps).OnRecord pid) : s.Unreported programs steps pid := by
  rcases onRecord_afterAll programs (single_of_plain plain) fresh.tracked after with before |
    ⟨earlier, first, between, rfl, starts⟩
  · obtain ⟨job, hj, _⟩ := before
    simp [fresh.jobs] at hj
  have off {middle later : List SessionStep} {step : SessionStep}
      (hsplit : between = middle ++ step :: later) :
      ((s.afterAll programs (earlier ++ first :: middle)).after programs step).OnRecord pid := by
    subst hsplit
    rw [← List.cons_append, ← List.append_assoc] at plain after
    obtain ⟨hbefore, hrest⟩ := List.forall_mem_append.mp plain
    rw [afterAll_append] at after
    by_contra off
    exact not_onRecord_of_off programs (afterAll_tracked programs fresh.tracked _) hrest
      (lt_next_of_started programs fresh works hbefore starts) off after
  refine ⟨earlier, first, between, rfl, starts, fun middle line later hsplit exit => ?_,
    fun middle later hsplit => ?_⟩
  · have hs := afterAll_tracked programs fresh.tracked (earlier ++ first :: middle)
    have single : (SessionStep.line line).IsSingle := trivial
    exact (after_touches programs single hs).not_onRecord_of_exit exit (off hsplit)
  · have hs := afterAll_tracked programs fresh.tracked (earlier ++ first :: middle)
    have single : SessionStep.report.IsSingle := trivial
    cases hearly : (s.afterAll programs (earlier ++ first :: middle)).ending? pid with
    | none => rfl
    | some early =>
      -- The child had ended already, and the same way.
      have same : early = ending := by
        subst hsplit
        rw [← List.cons_append, ← List.append_assoc] at plain hend
        obtain ⟨_, hrest⟩ := List.forall_mem_append.mp plain
        have hlate := ending?_afterAll programs (single_of_plain hrest) hs hearly
        rw [← afterAll_append, hend] at hlate
        exact (Option.some.inj hlate).symm
      have reported := (after_touches programs single hs).not_onRecord_of_report hs hearly
        (same ▸ named)
      exact absurd (off hsplit) reported

private theorem onRecord_of_unreported (programs : Programs) (fresh : s.Fresh)
    (works : s.writer.Works) (plain : ∀ step ∈ steps, step.IsPlain)
    (h : s.Unreported programs steps pid) : (s.afterAll programs steps).OnRecord pid := by
  obtain ⟨earlier, first, between, rfl, starts, notExit, unended⟩ := h
  obtain ⟨hearlier, hlater⟩ := List.forall_mem_append.mp plain
  obtain ⟨hfirst, hbetween⟩ := List.forall_mem_cons.mp hlater
  have hs := afterAll_tracked programs fresh.tracked earlier
  have works' := (plain_afterAll programs fresh.tracked works hearlier).1
  rw [afterAll_split]
  refine onRecord_afterAll_of_unended programs (single_of_plain hbetween)
    ((after_touches programs hfirst.isSingle hs).tracked hs)
    (after_start programs hs works' hfirst starts).1
    (fun middle line later hsplit => ?_) fun middle later hsplit => ?_
  · rw [← afterAll_split]
    exact notExit middle line later hsplit
  · rw [← afterAll_split]
    exact unended middle later hsplit

/-- A job whose child has ended in a way that a wait can tell is on record exactly as long as its
end is not reported. -/
theorem onRecord_iff_unreported (programs : Programs) (fresh : s.Fresh) (works : s.writer.Works)
    (plain : ∀ step ∈ steps, step.IsPlain) {ending : Ending}
    (hend : (s.afterAll programs steps).ending? pid = some ending) (named : ending.isNamed = true) :
    (s.afterAll programs steps).OnRecord pid ↔ s.Unreported programs steps pid :=
  ⟨unreported_of_onRecord programs fresh works plain hend named,
    onRecord_of_unreported programs fresh works plain⟩

private theorem count_told_le_one (programs : Programs) (fresh : s.Fresh) (works : s.writer.Works)
    (plain : ∀ step ∈ steps, step.IsPlain) {text : String} (about : IsAboutJob text)
    (apart : ∀ before step middle next after, steps = before ++ step :: (middle ++ next :: after) →
      text ++ "\n" ∈ (s.afterAll programs before).said programs [step] →
      text ++ "\n" ∉ (s.afterAll programs (before ++ step :: middle)).said programs [next]) :
    (s.said programs steps).count (text ++ "\n") ≤ 1 := by
  refine count_said_le_one programs fresh.tracked works plain ?_ apart
  rintro before step after rfl
  obtain ⟨hbefore, hrest⟩ := List.forall_mem_append.mp plain
  have hs := afterAll_tracked programs fresh.tracked before
  obtain ⟨lines, speaks, _, hsaid⟩ := said_step programs hs
    (plain_afterAll programs fresh.tracked works hbefore).1 (List.forall_mem_cons.mp hrest).1
  rw [hsaid]
  exact speaks.count_le_one hs about

private theorem started_apart (programs : Programs) (fresh : s.Fresh) (works : s.writer.Works)
    {before middle after : List SessionStep} {next : SessionStep}
    (plain : ∀ one ∈ before ++ step :: (middle ++ next :: after), one.IsPlain)
    (first : startedLine pid ++ "\n" ∈ (s.afterAll programs before).said programs [step]) :
    startedLine pid ++ "\n" ∉
      (s.afterAll programs (before ++ step :: middle)).said programs [next] := by
  intro second
  rw [← List.cons_append, ← List.append_assoc] at plain
  obtain ⟨hearly, hlate⟩ := List.forall_mem_append.mp plain
  obtain ⟨hbefore, hrest⟩ := List.forall_mem_append.mp hearly
  have works' := (plain_afterAll programs fresh.tracked works hbefore).1
  have works'' := (plain_afterAll programs fresh.tracked works hearly).1
  have starts := (mem_said_started programs (afterAll_tracked programs fresh.tracked before) works'
    (List.forall_mem_cons.mp hrest).1).mp first
  obtain ⟨_, _, _, _, _, hpid⟩ := (mem_said_started programs
    (afterAll_tracked programs fresh.tracked _) works'' (List.forall_mem_cons.mp hlate).1).mp second
  exact absurd hpid (Int.ne_of_lt (lt_next_of_started programs fresh works hearly starts))

private theorem done_apart (programs : Programs) (fresh : s.Fresh) (works : s.writer.Works)
    {before middle after : List SessionStep} {next : SessionStep}
    (plain : ∀ one ∈ before ++ step :: (middle ++ next :: after), one.IsPlain)
    (first : doneLine job status ++ "\n" ∈ (s.afterAll programs before).said programs [step]) :
    doneLine job status ++ "\n" ∉
      (s.afterAll programs (before ++ step :: middle)).said programs [next] := by
  intro second
  rw [← List.cons_append, ← List.append_assoc] at plain
  obtain ⟨hearly, hlate⟩ := List.forall_mem_append.mp plain
  obtain ⟨hbefore, hrest⟩ := List.forall_mem_append.mp hearly
  have hs := afterAll_tracked programs fresh.tracked before
  have works' := (plain_afterAll programs fresh.tracked works hbefore).1
  have works'' := (plain_afterAll programs fresh.tracked works hearly).1
  have hstep := (List.forall_mem_cons.mp hrest).1
  obtain ⟨rfl, ⟨found, hfound, hpid⟩, ending, hend, named, _⟩ :=
    (mem_said_done programs hs works' hstep).mp first
  obtain ⟨_, later, _⟩ := (mem_said_done programs (afterAll_tracked programs fresh.tracked _)
    works'' (List.forall_mem_cons.mp hlate).1).mp second
  have off := (after_touches programs hstep.isSingle hs).not_onRecord_of_report hs hend named
  rw [afterAll_append] at later
  exact not_onRecord_of_off programs hs hrest (hpid ▸ hs.lt_next hfound) off later

private theorem done_status (programs : Programs) (fresh : s.Fresh) (works : s.writer.Works)
    (plain : ∀ step ∈ steps, step.IsPlain)
    (hm : doneLine job status ++ "\n" ∈ s.said programs steps) :
    ∃ ending, (s.afterAll programs steps).ending? job.pid = some ending ∧
      status = ending.status := by
  obtain ⟨before, step, after, rfl, hstep⟩ := mem_said programs fresh.tracked works plain hm
  obtain ⟨hbefore, hrest⟩ := List.forall_mem_append.mp plain
  have hs := afterAll_tracked programs fresh.tracked before
  obtain ⟨_, _, ending, hend, _, hstatus⟩ := (mem_said_done programs hs
    (plain_afterAll programs fresh.tracked works hbefore).1
    (List.forall_mem_cons.mp hrest).1).mp hstep
  refine ⟨ending, ?_, hstatus⟩
  rw [afterAll_append]
  exact ending?_afterAll programs (single_of_plain hrest) hs hend

/-- Every background job is announced once, by the line that starts it. Its end is reported once and
as it came, by the first report after it unless an `exit` comes first; nothing else is reported. The
lines of a report are in the order of the record, the most recent job first. Whatever the shell says
is in lines. -/
theorem jobs_told_once (programs : Programs) (fresh : s.Fresh) (works : s.writer.Works)
    (plain : ∀ step ∈ steps, step.IsPlain) :
    (∀ before step after, steps = before ++ step :: after →
      let s' := s.afterAll programs before
      (∀ pid, startedLine pid ++ "\n" ∈ s'.said programs [step] ↔ s'.Starts step pid) ∧
      (∀ job status, doneLine job status ++ "\n" ∈ s'.said programs [step] ↔
        step = .report ∧ s.Unreported programs before job.pid ∧
          ∃ ending, s'.ending? job.pid = some ending ∧ ending.isNamed = true ∧
            status = ending.status) ∧
      (step = .report → ∃ reports : List (Job × Status),
        s'.said programs [step] = reports.map (fun report =>
          doneLine report.1 report.2 ++ "\n") ∧
        (reports.map (·.1)).Sublist s'.shell.jobs ∧
        (reports.map (·.1)).Pairwise fun job older => older.pid < job.pid)) ∧
    (∀ text ∈ s.said programs steps, ∃ line, IsLine line ∧ text = line ++ "\n") ∧
    (∀ pid, (s.said programs steps).count (startedLine pid ++ "\n") ≤ 1) ∧
    (∀ job status, (s.said programs steps).count (doneLine job status ++ "\n") ≤ 1) ∧
    ∀ job status status', doneLine job status ++ "\n" ∈ s.said programs steps →
      doneLine job status' ++ "\n" ∈ s.said programs steps → status = status' := by
  have tracked (steps : List SessionStep) := afterAll_tracked programs fresh.tracked steps
  refine ⟨?_, ?_, ?_, ?_, ?_⟩
  · rintro before step after rfl s'
    obtain ⟨hbefore, hrest⟩ := List.forall_mem_append.mp plain
    obtain ⟨hstep, _⟩ := List.forall_mem_cons.mp hrest
    have works' := (plain_afterAll programs fresh.tracked works hbefore).1
    refine ⟨fun pid => mem_said_started programs (tracked before) works' hstep,
      fun job status => ?_, ?_⟩
    · rw [mem_said_done programs (tracked before) works' hstep]
      refine and_congr_right fun _ => and_congr_left ?_
      rintro ⟨ending, hend, named, _⟩
      exact onRecord_iff_unreported programs fresh works hbefore hend named
    · rintro rfl
      obtain ⟨lines, speaks, _, hsaid⟩ := said_step programs (tracked before) works' hstep
      have hsub := (tracked before).reports_sublist
      refine ⟨_, ?_, hsub, (afterAll_accounted programs fresh before).recent.sublist hsub⟩
      rw [hsaid]
      cases speaks with
      | report => rw [doneLines, List.map_map]; rfl
      | other notReport => exact absurd rfl notReport
  · intro text hm
    obtain ⟨before, step, after, rfl, hstep⟩ := mem_said programs fresh.tracked works plain hm
    obtain ⟨hbefore, hrest⟩ := List.forall_mem_append.mp plain
    obtain ⟨lines, _, areLines, hsaid⟩ := said_step programs (tracked before)
      (plain_afterAll programs fresh.tracked works hbefore).1 (List.forall_mem_cons.mp hrest).1
    obtain ⟨line, hline, rfl⟩ := List.mem_map.mp (hsaid ▸ hstep)
    exact ⟨line, areLines line hline, rfl⟩
  · intro pid
    refine count_told_le_one programs fresh works plain (startedLine_isAboutJob pid) ?_
    rintro before step middle next after rfl first
    exact started_apart programs fresh works plain first
  · intro job status
    refine count_told_le_one programs fresh works plain (doneLine_isAboutJob job status) ?_
    rintro before step middle next after rfl first
    exact done_apart programs fresh works plain first
  · intro job status status' first second
    obtain ⟨ending, hend, rfl⟩ := done_status programs fresh works plain first
    obtain ⟨other, hother, rfl⟩ := done_status programs fresh works plain second
    rw [Option.some.inj (hend.symm.trans hother)]

/-- The end of a child that could not open its input is reported by the first of two reports. -/
theorem jobs_told_once_unopened :
    let programs : Programs := fun _ => .atOnce (.exited 0)
    let steps : List SessionStep := [.line "x < \x00 &", .report, .report]
    bare.writer.Works ∧ (∀ step ∈ steps, step.IsPlain) ∧
      bare.said programs steps =
        ["background pid is 3\n", "background pid 3 is done: exit value 1\n"] ∧
      ∀ job status, (bare.said programs steps).count (doneLine job status ++ "\n") ≤ 1 := by
  have works : bare.writer.Works := fun _ _ => rfl
  have plain : ∀ step ∈ [SessionStep.line "x < \x00 &", .report, .report], step.IsPlain := by
    simp [SessionStep.IsPlain]
  exact ⟨works, plain, by decide +kernel, (jobs_told_once _ bare_fresh works plain).2.2.2.1⟩

end JobShell.Session
