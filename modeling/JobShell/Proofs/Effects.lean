import JobShell.Proofs.Steps

/-!
What a step does to the children of the shell and to the jobs on record. Everything else that a step
does is left out, so that few cases remain.
-/

namespace JobShell

def Event.textFor? (pid : Pid) : Event → Option String
  | .created other text => if other = pid then some text else none
  | _ => none

namespace Session

def texts (s : Session) (pid : Pid) : List String :=
  s.history.filterMap (Event.textFor? pid)

/-- What concerns the jobs has not changed, but children may have lived on. -/
structure Spares (s s' : Session) : Prop where
  children : s.machine.children.Live none s'.machine.children
  texts : ∀ pid, s'.texts pid = s.texts pid
  jobs : s'.shell.jobs = s.shell.jobs
  shouldExit : s'.shell.shouldExit = s.shell.shouldExit

/-- The command is a program that is to run in the background, and gets a process. -/
structure Launches (s : Session) (command : Command) : Prop where
  external : command.IsExternal
  noNul : hasNul command.argv = false
  background : (command.background && s.shell.mode.allowsBackground) = true
  granted : s.refusal s.forks = none

/-- A child was started for a command with the given text. -/
structure Adds (s : Session) (text : String) (child : Child) (s' : Session) : Prop where
  children : s.machine.children.Joined child s'.machine.children
  texts : ∀ pid, s'.texts pid = s.texts pid ++ if child.pid = pid then [text] else []
  shouldExit : s'.shell.shouldExit = s.shell.shouldExit

/-- What running a command does to children and jobs, whether it fails or not. -/
inductive Affects (s : Session) (command : Command) (s' : Session) : Prop
  | spares (notExit : ¬ command.IsExit) (spares : s.Spares s')
  | exits (isExit : command.IsExit)
      (children : s.machine.children.Live none s'.machine.children)
      (texts : ∀ pid, s'.texts pid = s.texts pid) (jobs : s'.shell.jobs = [])
      (shouldExit : s'.shell.shouldExit = true)
  | waits {child : Child} (adds : s.Adds command.text child s') (external : command.IsExternal)
      (foreground : (command.background && s.shell.mode.allowsBackground) = false)
      (jobs : s'.shell.jobs = s.shell.jobs) (gone : child.state.isHeld = false)
  | lists {child : Child} (adds : s.Adds command.text child s') (launches : s.Launches command)
      (jobs : s'.shell.jobs = ⟨child.pid, command.text⟩ :: s.shell.jobs)
      (held : child.state.isHeld = true)

/-- What a single step does to children and jobs, whether it fails or not. -/
inductive Touches (s : Session) (step : SessionStep) (s' : Session) : Prop
  | spares (notReport : step ≠ .report) (notExit : ∀ line, step = .line line → ¬ s.ExitLine line)
      (spares : s.Spares s')
  | runs {line : String} {command : Command} (is : step = .line line)
      (parses : parse line s.pid = .ok (some command)) (affects : s.Affects command s')
  | reaps (is : step = .report) (spares : s.reaping.Spares s')

variable {s s' s'' : Session} {command : Command} {child : Child} {text : String}

theorem Spares.of_eq (children : s'.machine.children = s.machine.children)
    (history : s'.history = s.history) (jobs : s'.shell.jobs = s.shell.jobs)
    (shouldExit : s'.shell.shouldExit = s.shell.shouldExit) : s.Spares s' :=
  ⟨children ▸ .refl _ _, fun _ => by rw [Session.texts, history, Session.texts], jobs, shouldExit⟩

theorem Spares.refl (s : Session) : s.Spares s :=
  .of_eq rfl rfl rfl rfl

theorem Spares.trans (first : s.Spares s') (second : s'.Spares s'') : s.Spares s'' where
  children := first.children.trans second.children
  texts pid := (second.texts pid).trans (first.texts pid)
  jobs := second.jobs.trans first.jobs
  shouldExit := second.shouldExit.trans first.shouldExit

theorem Told.spares {lines : List String} {error : Option CommandError}
    (h : s.Told lines error s') : s.Spares s' :=
  .of_eq h.children h.history (by rw [h.shell]) (by rw [h.shell])

private theorem remembering_spares (s : Session) (status : Status) :
    s.Spares (s.remembering status) :=
  .of_eq rfl rfl rfl rfl

private theorem Adds.spares (h : s.Adds text child s') (spares : s'.Spares s'') :
    ∃ child', child.Lives none child' ∧ s.Adds text child' s'' := by
  obtain ⟨child', hlives, hjoined⟩ := h.children.live spares.children
  refine ⟨child', hlives, hjoined, fun pid => ?_, spares.shouldExit.trans h.shouldExit⟩
  rw [spares.texts, h.texts, hlives.pid]

theorem Affects.followed (h : s.Affects command s') (spares : s'.Spares s'') :
    s.Affects command s'' := by
  cases h with
  | spares notExit first => exact .spares notExit (first.trans spares)
  | exits isExit children texts jobs shouldExit =>
    exact .exits isExit (children.trans spares.children)
      (fun pid => (spares.texts pid).trans (texts pid)) (spares.jobs.trans jobs)
      (spares.shouldExit.trans shouldExit)
  | waits adds external foreground jobs gone =>
    obtain ⟨child', hlives, adds'⟩ := adds.spares spares
    exact .waits adds' external foreground (spares.jobs.trans jobs) (hlives.held.trans gone)
  | lists adds launches jobs held =>
    obtain ⟨child', hlives, adds'⟩ := adds.spares spares
    exact .lists adds' launches (by rw [spares.jobs, jobs, hlives.pid]) (hlives.held.trans held)

theorem foldl_signal_live (jobs : List Job) (c : Children) :
    c.Live none (jobs.foldl (fun c job => c.signal job.pid .terminate) c) := by
  induction jobs generalizing c with
  | nil => exact .refl _ _
  | cons job rest ih => exact (Children.signal_live c (by simp) _).trans (ih _)

private theorem exited_texts (s : Session) (pid : Pid) : s.exited.texts pid = s.texts pid := by
  simp [texts, exited, List.filterMap_append, List.filterMap_map, Function.comp_def,
    Event.textFor?]

private theorem Started.adds (h : s.Started text child s') : s.Adds text child s' where
  children := h.children
  texts pid := by
    obtain ⟨launches, hh⟩ := h.history
    have none : launches.filterMap (Event.textFor? pid ∘ Event.launched) = [] := by
      simp [Function.comp_def, Event.textFor?]
    rw [Session.texts, hh, List.filterMap_append, List.filterMap_cons, List.filterMap_map, none]
    by_cases hp : child.pid = pid <;> simp [hp, Event.textFor?, Session.texts]
  shouldExit := by rw [h.shell]

private theorem Started.lists (h : s.Started command.text child s')
    (launches : s.Launches command) (held : child.state.isHeld = true) :
    s.Affects command (s'.listing child.pid command.text) :=
  .lists ⟨h.children, h.adds.texts, h.adds.shouldExit⟩ launches
    (by rw [listing, h.shell, Registry.insert_eq_cons]) held

theorem Executed.affects {result : Except CommandError Status}
    (h : s.Executed command result s') : s.Affects command s' := by
  have other {name : Builtin} (hname : Builtin.ofName? command.name = some name)
      (hne : name ≠ .exit) : ¬ command.IsExit :=
    fun isExit => hne (Option.some.inj (hname.symm.trans isExit.name))
  have notExit (external : command.IsExternal) : ¬ command.IsExit := fun isExit => by
    simpa [external.name] using isExit.name
  cases h with
  | noWords none => exact .spares (fun isExit => isExit.words none) (.refl s)
  | exited isExit => exact .exits isExit (foldl_signal_live _ _) (exited_texts s) rfl rfl
  | moved words name moved =>
    obtain ⟨cwd, dir, rfl⟩ := moved
    exact .spares (other name (by decide)) (.of_eq rfl rfl rfl rfl)
  | reported words name told => exact .spares (other name (by decide)) told.spares
  | unreported words name told => exact .spares (other name (by decide)) told.spares
  | nul external => exact .spares (notExit external) (.refl s)
  | unflushed external noNul told => exact .spares (notExit external) told.spares
  | unspawned external noNul told =>
    exact .spares (notExit external) (told.spares.trans (.of_eq rfl rfl rfl rfl))
  | ended external noNul foreground started gone answers =>
    exact .waits started.adds external foreground (by rw [started.shell]) (by rw [gone]; rfl)
  | unanswered external noNul foreground started gone fails =>
    exact .waits started.adds external foreground (by rw [started.shell]) (by rw [gone]; rfl)
  | announced external noNul background started held told granted =>
    exact (started.lists ⟨external, noNul, background, granted⟩ held).followed told.spares
  | unannounced external noNul background started held told granted =>
    exact (started.lists ⟨external, noNul, background, granted⟩ held).followed told.spares

theorem Stepped.touches {step : SessionStep} {error : Option CommandError}
    (h : s.Stepped step error s') : s.Touches step s' := by
  cases h with
  | blank parses =>
    refine .spares (by simp) ?_ (.refl s)
    rintro _ ⟨⟩ ⟨command, hparse, _⟩
    simp [parses] at hparse
  | refused parses told =>
    refine .spares (by simp) ?_ told.spares
    rintro _ ⟨⟩ ⟨command, hparse, _⟩
    simp [parses] at hparse
  | ran parses executed =>
    exact .runs rfl parses (executed.affects.followed (remembering_spares _ _))
  | broke parses executed => exact .runs rfl parses executed.affects
  | failed parses executed other told =>
    exact .runs rfl parses
      (executed.affects.followed (told.spares.trans (remembering_spares _ _)))
  | untold parses executed other told =>
    exact .runs rfl parses (executed.affects.followed told.spares)
  | reported told => exact .reaps rfl told.spares
  | unchanged => exact .spares (by simp) (by simp) (.refl s)
  | switched told =>
    have taken : s.Spares (s.switched s.machine.signals.requested) := .of_eq rfl rfl rfl rfl
    exact .spares (by simp) (by simp) (taken.trans told.spares)
  | around elapses around =>
    refine .spares ?_ ?_ ⟨elapses.children, fun _ => rfl, rfl, rfl⟩
    · rintro rfl
      exact around
    · rintro line rfl
      exact around.elim
  | writer fault => exact .spares (by simp) (by simp) (.of_eq rfl rfl rfl rfl)

end Session

end JobShell
