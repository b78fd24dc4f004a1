import JobShell.Proofs.Coupling
import JobShell.Proofs.Leaving
import JobShell.Proofs.Overlooking

/-!
What the shell's own variables matter to: a `cd` without a directory goes to the home directory, and
nothing else that the shell or its children do depends on them. So two sessions that differ in their
variables stay alike as long as both have the same home, or nobody asks for it.
-/

namespace JobShell

def SessionStep.given : SessionStep → List String
  | .line text => [text]
  | .lines texts => texts
  | _ => []

/-- The home directory is the variable `HOME` of the shell, or else of its process. An empty one does
not count, and yet it hides that of the process. -/
theorem Environment.home_eq_some_iff (env : Environment) (path : String) :
    env.home = some path ↔ path ≠ "" ∧ (env.vars.get? "HOME" = some path ∨
      env.vars.get? "HOME" = none ∧ env.inherited.get? "HOME" = some path) := by
  rw [home, getVar, Option.filter_eq_some_iff, Option.or_eq_some_iff, and_comm]
  simp

namespace Session

def withVars (s : Session) (vars : Variables) : Session :=
  { s with shell.env.vars := vars }

/-- The line asks for the home directory: a `cd` whose first word is missing or empty. -/
def BareCd (s : Session) (line : String) : Prop :=
  ∃ command, parse line s.pid = .ok (some command) ∧
    Builtin.ofName? command.name = some .cd ∧ ∀ word ∈ command.args.head?, word = ""

instance (s : Session) (line : String) : Decidable (s.BareCd line) :=
  match parses : parse line s.pid with
  | .ok (some command) =>
    decidable_of_iff (Builtin.ofName? command.name = some .cd ∧
      ∀ word ∈ command.args.head?, word = "") <| by simp [BareCd, parses]
  | .ok none => isFalse <| by simp [BareCd, parses]
  | .error _ => isFalse <| by simp [BareCd, parses]

/-- What became of each of the steps: its error, if it failed. -/
def results (programs : Programs) (s : Session) : List SessionStep → List (Option CommandError)
  | [] => []
  | step :: rest =>
    (outcome (perform programs step) s).1 :: results programs (s.after programs step) rest

/-- The second session is the first one with these variables. The first one still has the variables
of `origin`, and the same process. -/
structure Unaware (origin : Session) (vars : Variables) (s t : Session) : Prop where
  other : t = s.withVars vars
  own : s.shell.env.vars = origin.shell.env.vars
  inherited : s.shell.env.inherited = origin.shell.env.inherited
  pid : s.pid = origin.pid

def SameHome (origin : Session) (vars : Variables) : Prop :=
  (origin.withVars vars).shell.env.home = origin.shell.env.home

variable {programs : Programs} {origin s t : Session} {vars : Variables} {line : String}
  {command : Command} {step : SessionStep} {steps : List SessionStep}

theorem Unaware.cdTarget (h : Unaware origin vars s t) {args : List String}
    (free : SameHome origin vars ∨ ∃ word, args.head? = some word ∧ word ≠ "") :
    Builtin.cdTarget t.shell.env args = Builtin.cdTarget s.shell.env args := by
  obtain ⟨rfl, own, inherited, -⟩ := h
  rcases free with same | ⟨word, first, named⟩
  · have home : (s.withVars vars).shell.env.home = s.shell.env.home := by
      simpa only [SameHome, Environment.home, Environment.getVar, withVars, own, inherited] using same
    simp only [Builtin.cdTarget, home]
  · simp only [Builtin.cdTarget, first, if_neg named]

private theorem unaware_speech : SameSpeech (Unaware origin vars) := by
  have operates (operation : WriterOperation) :
      Coupled (Unaware origin vars) (operate operation) (operate operation) := by
    refine coupled_get_bind ?_
    rintro s _ ⟨rfl, own, inherited, pid⟩
    dsimp only [withVars]
    cases s.writer.fault s.writer.operations operation with
    | none => exact .ok () ⟨rfl, own, inherited, pid⟩
    | some text => exact .error _ ⟨rfl, own, inherited, pid⟩
  refine ⟨operates, fun text => (operates .write).bind fun _ => coupled_modify ?_⟩
  rintro s _ ⟨rfl, own, inherited, pid⟩
  exact ⟨rfl, own, inherited, pid⟩

private theorem unaware_fork : Coupled (Unaware origin vars) fork fork := by
  refine coupled_fork ?_ ?_
  · rintro s _ ⟨rfl, -⟩
    rfl
  · rintro s _ ⟨rfl, own, inherited, pid⟩
    exact ⟨rfl, own, inherited, pid⟩

private theorem unaware_startChild (command : Command) (background : Bool) :
    Coupled (Unaware origin vars) (startChild programs command background)
      (startChild programs command background) := by
  refine coupled_startChild ?_ ?_ ?_
  · rintro s _ ⟨rfl, -⟩
    rfl
  · rintro s _ ⟨rfl, own, inherited, pid⟩
    exact ⟨rfl, own, inherited, pid⟩
  · rintro s _ ⟨rfl, own, inherited, pid⟩
    exact ⟨rfl, own, inherited, (Machine.advance_pid _ _).trans pid⟩

private theorem unaware_waitForeground (number : Pid) :
    Coupled (Unaware origin vars) (waitForeground number) (waitForeground number) := by
  refine coupled_waitForeground ?_ ?_
  · rintro s _ ⟨rfl, -⟩
    rfl
  · rintro s _ ⟨rfl, own, inherited, pid⟩
    exact ⟨rfl, own, inherited, (Machine.await_pid _ _).trans pid⟩

private theorem unaware_respected : Respected programs (Unaware origin vars) where
  speech := unaware_speech
  status := by rintro s _ ⟨rfl, -⟩; rfl
  mode := by rintro s _ ⟨rfl, -⟩; rfl
  shouldExit := by rintro s _ ⟨rfl, -⟩; rfl
  pid := by rintro s _ ⟨rfl, -⟩; rfl
  requested := by rintro s _ ⟨rfl, -⟩; rfl
  remembers := by rintro s _ status ⟨rfl, own, inherited, pid⟩; exact ⟨rfl, own, inherited, pid⟩
  lists := by rintro s _ number text ⟨rfl, own, inherited, pid⟩; exact ⟨rfl, own, inherited, pid⟩
  reaps := by rintro s _ ⟨rfl, own, inherited, pid⟩; exact ⟨rfl, rfl, own, inherited, pid⟩
  forks := unaware_fork
  starts := unaware_startChild
  waits := unaware_waitForeground

private theorem unaware_builtin {args : List String} {builtin : Builtin}
    (free : builtin = .cd → SameHome origin vars ∨ ∃ word, args.head? = some word ∧ word ≠ "") :
    Coupled (Unaware origin vars) (builtin.run args) (builtin.run args) := by
  cases builtin with
  | exit =>
    rintro s _ ⟨rfl, own, inherited, pid⟩
    rw [Builtin.run, exit_run, exit_run]
    exact .ok _ ⟨rfl, own, inherited, pid⟩
  | cd =>
    refine coupled_get_bind fun s t related => ?_
    rw [related.cdTarget (free rfl)]
    obtain ⟨rfl, own, inherited, pid⟩ := related
    dsimp only [withVars, Environment.resolve]
    split
    · exact .ok _ ⟨rfl, own, inherited, pid⟩
    · next target =>
      split <;> exact .ok _ ⟨rfl, own, inherited, pid⟩
  | status =>
    refine coupled_get_bind ?_
    rintro s _ ⟨rfl, own, inherited, pid⟩
    exact ((unaware_speech.writeLine _).bind fun _ => unaware_speech.flush.bind fun _ =>
      coupled_pure _) _ _ ⟨rfl, own, inherited, pid⟩

private theorem unaware_line (free : SameHome origin vars ∨ ¬ origin.BareCd line) :
    Coupled (Unaware origin vars) (runLine programs line) (runLine programs line) := by
  intro s t related
  refine unaware_respected.runLine related line fun command parses =>
    unaware_respected.execute fun builtin name => unaware_builtin ?_
  rintro rfl
  refine free.imp_right fun named => ?_
  by_contra none
  refine named ⟨command, related.pid ▸ parses, name, fun word first => ?_⟩
  by_contra nonempty
  exact none ⟨word, first, nonempty⟩

private theorem not_bareCd_exit (s : Session) : ¬ s.BareCd "exit" := by
  rintro ⟨command, parses, name, -⟩
  obtain ⟨other, exits, -, exit⟩ := s.exitLine_exit
  obtain rfl : command = other := by simpa using parses.symm.trans exits
  cases name.symm.trans exit

/-- Steps that do not ask for the home directory, or get the same one, come to the same. -/
theorem unaware_step
    (free : SameHome origin vars ∨ ∀ line ∈ step.given, ¬ origin.BareCd line) :
    Coupled (Unaware origin vars) (perform programs step) (perform programs step) := by
  have each (line : String) (given : line ∈ step.given) :
      Coupled (Unaware origin vars) (runLine programs line) (runLine programs line) :=
    unaware_line (free.imp_right fun named => named line given)
  have respected : Respected programs (Unaware origin vars) := unaware_respected
  cases step with
  | line text => exact each text (List.mem_singleton_self text)
  | lines texts =>
    exact coupled_runLines respected.shouldExit respected.report
      (unaware_line (.inr origin.not_bareCd_exit)) each
  | report => exact respected.report
  | sync =>
    refine respected.sync ?_
    rintro s _ mode ⟨rfl, own, inherited, pid⟩
    exact ⟨rfl, own, inherited, pid⟩
  | pass time =>
    refine coupled_modify ?_
    rintro s _ ⟨rfl, own, inherited, pid⟩
    exact ⟨rfl, own, inherited, (Machine.advance_pid _ _).trans pid⟩
  | toggle | signal | signalChild | writer =>
    refine coupled_modify ?_
    rintro s _ ⟨rfl, own, inherited, pid⟩
    exact ⟨rfl, own, inherited, pid⟩

theorem Unaware.afterAll (h : Unaware origin vars s t)
    (free : SameHome origin vars ∨ ∀ line ∈ steps.flatMap SessionStep.given, ¬ origin.BareCd line) :
    t.results programs steps = s.results programs steps ∧
      Unaware origin vars (s.afterAll programs steps) (t.afterAll programs steps) := by
  induction steps generalizing s t with
  | nil => exact ⟨rfl, h⟩
  | cons step rest ih =>
    simp only [List.flatMap_cons, List.forall_mem_append] at free
    obtain ⟨same, next⟩ := (unaware_step (free.imp_right And.left) s t h).outcome
    obtain ⟨later, last⟩ := ih next (free.imp_right And.right)
    exact ⟨congrArg₂ List.cons same later, last⟩

/-- The shell's own variables matter to nothing but a `cd` without a directory, and to that only by
the home directory. If two sessions that differ in nothing but their variables have the same home, or
none of their lines is such a `cd`, then whatever happens comes to the same in both: every step fails
or succeeds alike, and they still differ in nothing but their variables, so their output, files, jobs,
children, modes and directories are the same. -/
theorem vars_matter_to_bare_cd_only (programs : Programs) (s : Session) (vars : Variables)
    (steps : List SessionStep)
    (free : (s.withVars vars).shell.env.home = s.shell.env.home ∨
      ∀ line ∈ steps.flatMap SessionStep.given, ¬ s.BareCd line) :
    (s.withVars vars).results programs steps = s.results programs steps ∧
      (s.withVars vars).afterAll programs steps = (s.afterAll programs steps).withVars vars ∧
      ∀ path, s.shell.env.home = some path ↔
        path ≠ "" ∧ (s.shell.env.vars.get? "HOME" = some path ∨
          s.shell.env.vars.get? "HOME" = none ∧
            s.shell.env.inherited.get? "HOME" = some path) := by
  have start : Unaware s vars s (s.withVars vars) := ⟨rfl, rfl, rfl, rfl⟩
  obtain ⟨results, last⟩ := start.afterAll free
  exact ⟨results, last.other, s.shell.env.home_eq_some_iff⟩

/-- An empty `HOME` hides the one of the process. As long as it is there, one more variable makes no
difference even to a `cd`; without it the home is another one, and only other lines come to the
same. -/
theorem vars_matter_to_bare_cd_only_hidden :
    let programs : Programs := fun _ => .atOnce (.exited 0)
    let s : Session :=
      { bare with shell.env.vars := [("HOME", "")], shell.env.inherited := [("HOME", "/")] }
    let more : Variables := [("X", "1"), ("HOME", "")]
    let homeward : List SessionStep := [.line "cd", .report, .lines ["status", "cd"]]
    let other : List SessionStep := [.line "cd x", .toggle, .sync, .lines ["y &"]]
    s.shell.env.home = none ∧ (s.withVars []).shell.env.home = some "/" ∧
      (s.withVars more).afterAll programs homeward =
        (s.afterAll programs homeward).withVars more ∧
      (s.withVars []).afterAll programs other = (s.afterAll programs other).withVars [] := by
  intro programs s more homeward other
  have given : ∀ line ∈ other.flatMap SessionStep.given, ¬ s.BareCd line := by decide +kernel
  exact ⟨by decide, by decide,
    (vars_matter_to_bare_cd_only programs s more homeward (.inl (by decide))).2.1,
    (vars_matter_to_bare_cd_only programs s [] other (.inr given)).2.1⟩

end Session

end JobShell
