import JobShell.Proofs.Speech

/-!
What a report does to the jobs on record when the writer fails in the middle of it. The jobs that
have ended are taken off record before the first line is written, and the first write that fails
ends the report.
-/

namespace JobShell.Session

/-- After a report the job is still on record, or the report has written how its child ended. -/
def Keeps (programs : Programs) (s : Session) (job : Job) : Prop :=
  job ∈ (s.after programs .report).shell.jobs ∨ ∃ ending, s.ending? job.pid = some ending ∧
    doneLine job ending.status ++ "\n" ∈ s.said programs [.report]

variable {programs : Programs} {s : Session} {job : Job} {told untold : List (Job × Status)}

private theorem report_told (programs : Programs) (hs : s.Tracked) :
    s.reaping.Told s.doneLines (outcome (perform programs .report) s).1
      (s.after programs .report) := by
  obtain ⟨error, s', hout, stepped⟩ :=
    step_stepped programs (show SessionStep.report.IsSingle from trivial) hs.numbered
  rw [after, hout]
  cases stepped with
  | reported told => exact told
  | around elapses around => exact around.elim

private theorem report_jobs (programs : Programs) (hs : s.Tracked) :
    (s.after programs .report).shell.jobs = s.reaping.shell.jobs :=
  congrArg Shell.jobs (report_told programs hs).shell

private theorem mem_told_lines {status : Status} :
    doneLine job status ++ "\n" ∈ told.map (fun entry => doneLine entry.1 entry.2 ++ "\n") ↔
      ∃ entry ∈ told, entry.1.pid = job.pid ∧ entry.2 = status := by
  rw [List.mem_map]
  refine exists_congr fun entry => and_congr_right fun _ => ?_
  exact (String.append_left_inj _).trans doneLine_inj

private theorem not_keeps_iff (programs : Programs) (hs : s.Tracked)
    (split : told ++ untold = s.reports)
    (said : s.said programs [.report] =
      told.map fun entry => doneLine entry.1 entry.2 ++ "\n")
    (hj : job ∈ s.shell.jobs)
    (named : ∀ ending, s.ending? job.pid = some ending → ending.isNamed = true) :
    ¬ s.Keeps programs job ↔ ∃ entry ∈ untold, entry.1.pid = job.pid := by
  rw [Keeps, report_jobs programs hs, said]
  constructor
  · intro lost
    cases hend : s.ending? job.pid with
    | none => exact absurd (.inl (hs.mem_reaping hj hend)) lost
    | some ending =>
      obtain ⟨entry, hm, hpid, hstatus⟩ := hs.exists_report hj hend (named ending hend)
      rcases List.mem_append.mp (split ▸ hm) with hm | hm
      · exact absurd (.inr ⟨ending, hend, mem_told_lines.mpr ⟨entry, hm, hpid, hstatus⟩⟩) lost
      · exact ⟨entry, hm, hpid⟩
  · rintro ⟨entry, hm, hpid⟩ (kept | ⟨_, _, hline⟩)
    · obtain ⟨ending, hend, hnamed, _⟩ :=
        hs.ending?_of_mem_reports (split ▸ List.mem_append_right told hm)
      exact hs.notMem_reaping (hpid ▸ hend) hnamed kept
    · obtain ⟨other, ho, hother, _⟩ := mem_told_lines.mp hline
      have distinct := hs.reports_nodup
      rw [← split, List.map_append] at distinct
      exact (List.nodup_append.mp distinct).2.2 _ (List.mem_map_of_mem ho) _
        (List.mem_map_of_mem hm) (hother.trans hpid.symm)

/-- A report keeps every job on record or writes its line, except the jobs whose turn came when or
after a write failed. The report finds out about every child that has ended, once and truly and in
the order of the record; it tells of them up to the first write that fails, which is then its error,
and loses the others. The jobs that stay on record are reported by any later report whose writer
works, once they have ended. -/
theorem kept_up_to_failed_write (programs : Programs) (hs : s.Tracked) :
    (∃ told untold : List (Job × Status),
      ((told ++ untold).map (·.1)).Sublist s.shell.jobs ∧
      ((told ++ untold).map (·.1.pid)).Nodup ∧
      (∀ entry ∈ told ++ untold, ∃ ending, s.ending? entry.1.pid = some ending ∧
        entry.2 = ending.status) ∧
      s.said programs [.report] = told.map (fun entry => doneLine entry.1 entry.2 ++ "\n") ∧
      s.writer.Takes told.length ∧
      (untold ≠ [] → ∃ text, (outcome (perform programs .report) s).1 = some (.output text) ∧
        s.writer.fault (s.writer.operations + told.length) .write = some text) ∧
      ∀ job ∈ s.shell.jobs, (∀ ending, s.ending? job.pid = some ending → ending.isNamed = true) →
        (¬ s.Keeps programs job ↔ ∃ entry ∈ untold, entry.1.pid = job.pid)) ∧
    ∀ steps,
      let later := (s.after programs .report).afterAll programs steps
      later.writer.Works → ∀ job ∈ later.shell.jobs, ∀ ending,
        later.ending? job.pid = some ending → ending.isNamed = true →
        doneLine job ending.status ++ "\n" ∈ later.said programs [.report] := by
  constructor
  · obtain ⟨count, wrote, takes, cut⟩ := (report_told programs hs).wrote
    have split : s.reports.take count ++ s.reports.drop count = s.reports :=
      List.take_append_drop count s.reports
    have lines : s.doneLines.take count =
        (s.reports.take count).map fun entry => doneLine entry.1 entry.2 := List.map_take.symm
    have said : s.said programs [.report] =
        (s.reports.take count).map fun entry => doneLine entry.1 entry.2 ++ "\n" := by
      have written : (s.after programs .report).writer.written = s.writer.written ++ _ :=
        wrote.written
      rw [Session.said, afterAll_cons, afterAll_nil, written, List.drop_left, lines, List.map_map]
      rfl
    have hlength : (s.doneLines.take count).length = (s.reports.take count).length := by
      rw [lines, List.length_map]
    rw [hlength] at takes cut
    refine ⟨s.reports.take count, s.reports.drop count, split.symm ▸ hs.reports_sublist,
      split.symm ▸ hs.reports_nodup, fun entry hm => ?_, said, takes,
      fun rest => cut fun none => ?_,
      fun job hj named => not_keeps_iff programs hs split said hj named⟩
    · obtain ⟨ending, hend, _, hstatus⟩ := hs.ending?_of_mem_reports (split ▸ hm)
      exact ⟨ending, hend, hstatus⟩
    · exact rest (List.map_eq_nil_iff.mp (List.map_drop.trans none))
  · intro steps later works job hj ending hend named
    have tracked : later.Tracked := afterAll_tracked programs hs (.report :: steps)
    have plain : SessionStep.report.IsPlain := trivial
    exact (mem_said_done programs tracked works plain).mpr
      ⟨rfl, ⟨job, hj, rfl⟩, ending, hend, named, rfl⟩

/-- A report whose only write fails loses the job: it is off record, its line was not written, and
the next report, with a writer that works, has nothing to say. -/
theorem end_lost_in_failed_write :
    let programs : Programs := fun _ => .atOnce (.exited 0)
    let broken : Nat → WriterOperation → Option String := fun _ operation =>
      if operation = .write then some "broken pipe" else none
    let s := bare.afterAll programs [.line "x < \x00 &", .writer broken]
    s.Tracked ∧ (∃ job ∈ s.shell.jobs, s.ending? job.pid = some (.exited 1) ∧
      ¬ s.Keeps programs job) ∧
      (s.after programs .report).said programs [.writer fun _ _ => none, .report] = [] := by
  intro programs broken s
  have jobs : s.shell.jobs = [⟨3, "x < \x00 &"⟩] := by decide +kernel
  have none : (s.after programs .report).shell.jobs = [] := by decide +kernel
  have silent : s.said programs [.report] = [] := by decide +kernel
  refine ⟨afterAll_tracked programs bare_fresh.tracked _,
    ⟨_, jobs ▸ List.mem_cons_self, by decide +kernel, ?_⟩, by decide +kernel⟩
  rintro (kept | ⟨_, _, line⟩)
  · simp [none] at kept
  · simp [silent] at line

/-- Of two jobs that have ended, the more recent is told and the other one is lost if the second
write of the report fails. -/
theorem kept_up_to_second_write :
    let programs : Programs := fun _ => .atOnce (.exited 0)
    let broken : Nat → WriterOperation → Option String := fun number _ =>
      if number = 7 then some "broken pipe" else none
    let s := bare.afterAll programs [.line "x < \x00 &", .line "x < \x00 &", .writer broken]
    s.Tracked ∧ s.said programs [.report] = ["background pid 4 is done: exit value 1\n"] ∧
      (outcome (perform programs .report) s).1 = some (.output "broken pipe") ∧
      ∃ told untold : List (Job × Status),
        s.said programs [.report] = told.map (fun entry => doneLine entry.1 entry.2 ++ "\n") ∧
        ∀ job ∈ s.shell.jobs,
          (∀ ending, s.ending? job.pid = some ending → ending.isNamed = true) →
          (¬ s.Keeps programs job ↔ ∃ entry ∈ untold, entry.1.pid = job.pid) := by
  intro programs broken s
  have tracked : s.Tracked := afterAll_tracked programs bare_fresh.tracked _
  obtain ⟨⟨told, untold, _, _, _, said, _, _, keeps⟩, _⟩ :=
    kept_up_to_failed_write programs tracked
  exact ⟨tracked, by decide +kernel, by decide +kernel, told, untold, said, keeps⟩

end JobShell.Session
