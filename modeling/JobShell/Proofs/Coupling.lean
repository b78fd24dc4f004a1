import JobShell.Proofs.Steps

/-!
Two sessions side by side. Actions are coupled if, from related sessions, both succeed with the same
value or both fail with the same error, and leave related sessions. If only a session and itself are
related, this says what a single action keeps.
-/

namespace JobShell.Session

inductive Alike (R : Session → Session → Prop) {α : Type} :
    EStateM.Result CommandError Session α → EStateM.Result CommandError Session α → Prop
  | ok (x : α) {s t : Session} (related : R s t) : Alike R (.ok x s) (.ok x t)
  | error (e : CommandError) {s t : Session} (related : R s t) : Alike R (.error e s) (.error e t)

/-- From related sessions the two actions come to the same. -/
def Coupled (R : Session → Session → Prop) {α : Type} (a b : Action α) : Prop :=
  ∀ s t, R s t → Alike R (a.run s) (b.run t)

/-- The action comes to this state, whether it fails or not. -/
def Leaves {α : Type} (action : Action α) (s t : Session) : Prop :=
  (∃ x, action.run s = .ok x t) ∨ ∃ e, action.run s = .error e t

/-- A session with some property, and itself. -/
def Both (holds : Session → Prop) (s t : Session) : Prop :=
  t = s ∧ holds s

variable {R : Session → Session → Prop} {holds : Session → Prop} {α β : Type} {s t : Session}

theorem coupled_pure (x : α) : Coupled R (pure x) (pure x) :=
  fun _ _ related => .ok x related

theorem coupled_throw (e : CommandError) : Coupled R (throw e : Action α) (throw e) :=
  fun _ _ related => .error e related

theorem Coupled.bind {a b : Action α} {f g : α → Action β} (first : Coupled R a b)
    (next : ∀ x, Coupled R (f x) (g x)) : Coupled R (a >>= f) (b >>= g) := by
  intro s t related
  have outcomes := first s t related
  rw [EStateM.run_bind, EStateM.run_bind]
  generalize a.run s = ran, b.run t = ran' at outcomes ⊢
  cases outcomes with
  | ok x related => exact next x _ _ related
  | error e related => exact .error e related

/-- Actions that go on by the state they find. -/
theorem coupled_get_bind {f g : Session → Action α}
    (next : ∀ s t, R s t → Alike R ((f s).run s) ((g t).run t)) :
    Coupled R ((get : Action Session) >>= f) ((get : Action Session) >>= g) :=
  next

theorem coupled_modify {f g : Session → Session} (keeps : ∀ s t, R s t → R (f s) (g t)) :
    Coupled R (modify f) (modify g) :=
  fun s t related => .ok () (keeps s t related)

/-- The same for actions that need only one session each. -/
theorem both_get_bind {f : Session → Action α}
    (next : ∀ s, holds s → Coupled (Both holds) (f s) (f s)) :
    Coupled (Both holds) ((get : Action Session) >>= f) ((get : Action Session) >>= f) := by
  rintro _ s ⟨rfl, hs⟩
  exact next s hs s s ⟨rfl, hs⟩

theorem both_modify {f : Session → Session} (keeps : ∀ s, holds s → holds (f s)) :
    Coupled (Both holds) (modify f) (modify f) := by
  refine coupled_modify ?_
  rintro _ s ⟨rfl, hs⟩
  exact ⟨rfl, keeps s hs⟩

theorem both_set (after : holds s) : Coupled (Both holds) (set s) (set s) :=
  fun _ _ _ => .ok () ⟨rfl, after⟩

theorem Coupled.tryCatch {a b : Action α} {f g : CommandError → Action α} (first : Coupled R a b)
    (handles : ∀ e, Coupled R (f e) (g e)) :
    Coupled R (MonadExcept.tryCatch a f) (MonadExcept.tryCatch b g) := by
  intro s t related
  simp only [EStateM.run, MonadExcept.tryCatch, tryCatchThe, MonadExceptOf.tryCatch,
    EStateM.tryCatch]
  have outcomes : Alike R (a s) (b t) := first s t related
  generalize a s = ran, b t = ran' at outcomes
  cases outcomes with
  | ok x related => exact .ok x related
  | error e related => exact handles e _ _ related

theorem coupled_forM {γ : Type} {f g : γ → Action Unit} (xs : List γ)
    (each : ∀ x ∈ xs, Coupled R (f x) (g x)) : Coupled R (xs.forM f) (xs.forM g) := by
  induction xs with
  | nil => exact coupled_pure ()
  | cons x xs ih =>
    obtain ⟨hx, hxs⟩ := List.forall_mem_cons.mp each
    exact hx.bind fun _ => ih hxs

theorem Coupled.run_ok {a b : Action α} (h : Coupled R a b) (related : R s t) {x : α} {s' : Session}
    (runs : a.run s = .ok x s') : ∃ t', b.run t = .ok x t' ∧ R s' t' := by
  have alike := h s t related
  rw [runs] at alike
  generalize b.run t = ran at alike
  cases alike with
  | ok _ related => exact ⟨_, rfl, related⟩

/-- What an action keeps holds in the state that it leaves. -/
theorem Coupled.holds_of_leaves {action : Action α} (keeps : Coupled (Both holds) action action)
    (before : holds s) (leaves : Leaves action s t) : holds t := by
  have alike := keeps s s ⟨rfl, before⟩
  rcases leaves with ⟨x, hrun⟩ | ⟨e, hrun⟩
  · rw [hrun] at alike
    cases alike with
    | ok _ related => exact related.2
  · rw [hrun] at alike
    cases alike with
    | error _ related => exact related.2

theorem exists_leaves (action : Action α) (s : Session) : ∃ t, Leaves action s t := by
  unfold Leaves
  cases action.run s with
  | ok x t => exact ⟨t, .inl ⟨x, rfl⟩⟩
  | error e t => exact ⟨t, .inr ⟨e, rfl⟩⟩

theorem leaves_outcome (action : Action Unit) (s : Session) :
    Leaves action s (outcome action s).2 := by
  rw [outcome]
  cases hrun : action.run s with
  | ok x t => exact .inl ⟨x, hrun⟩
  | error e t => exact .inr ⟨e, hrun⟩

theorem Alike.outcome {a b : Action Unit} (h : Alike R (a.run s) (b.run t)) :
    (outcome b t).1 = (outcome a s).1 ∧ R (outcome a s).2 (outcome b t).2 := by
  rw [Session.outcome, Session.outcome]
  generalize a.run s = ran, b.run t = ran' at h
  cases h with
  | ok _ related => exact ⟨rfl, related⟩
  | error _ related => exact ⟨rfl, related⟩

/-! What the shell says. -/

/-- Related sessions stay related when both shells say the same. -/
structure SameSpeech (R : Session → Session → Prop) : Prop where
  operate : ∀ operation, Coupled R (operate operation) (operate operation)
  writeText : ∀ text, Coupled R (writeText text) (writeText text)

theorem SameSpeech.writeLine (h : SameSpeech R) (line : String) :
    Coupled R (writeLine line) (writeLine line) :=
  h.writeText _

theorem SameSpeech.flush (h : SameSpeech R) : Coupled R flush flush :=
  h.operate _

theorem SameSpeech.complain (h : SameSpeech R) (message : String) :
    Coupled R (complain message) (complain message) :=
  (h.writeLine _).bind fun _ => h.flush

theorem both_speech
    (counts : ∀ s operations, holds s → holds { s with writer.operations := operations })
    (writes : ∀ s text, holds s → holds { s with
      writer.written := s.writer.written ++ [text]
      machine.store :=
        if s.writer.onOutput then s.machine.store.writeText s.machine.streams.output text
        else s.machine.store }) : SameSpeech (Both holds) := by
  have operates (operation : WriterOperation) :
      Coupled (Both holds) (operate operation) (operate operation) := by
    refine both_get_bind fun s hs => (both_set (counts s _ hs)).bind fun _ => ?_
    split
    · exact coupled_throw _
    · exact coupled_pure _
  exact ⟨operates, fun text => (operates .write).bind fun _ => both_modify fun s => writes s text⟩

/-! What the start of a child and the wait for it leave. -/

def awaited (s : Session) (pid : Pid) : Except Fault Ending × Machine :=
  Machine.await { s.machine with signals := s.machine.signals.block } pid

def waited (s : Session) (pid : Pid) : Session :=
  { s with machine := { (s.awaited pid).2 with signals := (s.awaited pid).2.signals.unblock } }

/-- To wait for a child is coupled if both shells get to know the same. -/
theorem coupled_waitForeground {pid : Pid}
    (answers : ∀ s t, R s t → (t.awaited pid).1 = (s.awaited pid).1)
    (waits : ∀ s t, R s t → R (s.waited pid) (t.waited pid)) :
    Coupled R (waitForeground pid) (waitForeground pid) := by
  intro s t related
  have same := answers s t related
  have ends := waits s t related
  unfold waited at ends
  cases hs : s.awaited pid with
  | mk answer between =>
    cases ht : t.awaited pid with
    | mk answer' between' =>
      rw [hs, ht] at ends
      obtain rfl : answer' = answer := by rwa [hs, ht] at same
      rw [waitForeground_run s hs, waitForeground_run t ht]
      cases answer' with
      | ok ending => exact .ok _ ends
      | error fault => exact .error _ ends

theorem both_waitForeground {pid : Pid} (waits : ∀ s, holds s → holds (s.waited pid)) :
    Coupled (Both holds) (waitForeground pid) (waitForeground pid) := by
  refine coupled_waitForeground ?_ ?_
  · rintro _ s ⟨rfl, -⟩
    rfl
  · rintro _ s ⟨rfl, hs⟩
    exact ⟨rfl, waits s hs⟩

/-- To ask for a process is coupled if both shells get the same answer. -/
theorem coupled_fork (answers : ∀ s t, R s t → t.refusal t.forks = s.refusal s.forks)
    (counts : ∀ s t, R s t → R s.forked t.forked) : Coupled R fork fork := by
  intro s t related
  rw [fork_run, fork_run, answers s t related]
  have forked := counts s t related
  cases s.refusal s.forks with
  | none => exact .ok () forked
  | some fault => exact .error _ forked

theorem both_fork (counts : ∀ s, holds s → holds s.forked) : Coupled (Both holds) fork fork := by
  refine coupled_fork ?_ ?_
  · rintro _ s ⟨rfl, -⟩
    rfl
  · rintro _ s ⟨rfl, hs⟩
    exact ⟨rfl, counts s hs⟩

/-- To start a child is coupled if it sets out alike, and what it does at once is done alike. -/
theorem coupled_startChild {programs : Programs} {command : Command} {background : Bool}
    (next : ∀ s t, R s t → t.machine.children.next = s.machine.children.next)
    (departs : ∀ s t, R s t →
      R (departed programs s command background) (departed programs t command background))
    (advances : ∀ s t, R s t →
      R { s with machine := s.machine.advance 1 } { t with machine := t.machine.advance 1 }) :
    Coupled R (startChild programs command background)
      (startChild programs command background) := by
  intro s t related
  rw [startChild_run, startChild_run, next s t related]
  refine .ok _ ?_
  split
  · exact advances _ _ (departs s t related)
  · exact departs s t related

theorem both_startChild {programs : Programs} {command : Command} {background : Bool}
    (departs : ∀ s, holds s → holds (departed programs s command background))
    (advances : ∀ s, holds s → holds { s with machine := s.machine.advance 1 }) :
    Coupled (Both holds) (startChild programs command background)
      (startChild programs command background) := by
  refine coupled_startChild ?_ ?_ ?_
  · rintro _ s ⟨rfl, -⟩
    rfl
  · rintro _ s ⟨rfl, hs⟩
    exact ⟨rfl, departs s hs⟩
  · rintro _ s ⟨rfl, hs⟩
    exact ⟨rfl, advances s hs⟩

/-! What is done without regard to what the shell remembers. -/

section
variable {remembers : Shell → Prop} (programs : Programs)

theorem keeps_modifyShell {f : Shell → Shell}
    (keeps : ∀ shell, remembers shell → remembers (f shell)) :
    Coupled (Both fun s => remembers s.shell) (modifyShell f) (modifyShell f) :=
  both_modify fun s h => keeps s.shell h

theorem keeps_speech : SameSpeech (Both fun s => remembers s.shell) :=
  both_speech (fun _ _ h => h) fun _ _ h => h

theorem keeps_fork : Coupled (Both fun s => remembers s.shell) fork fork :=
  both_fork fun _ hs => hs

theorem keeps_startChild (command : Command) (background : Bool) :
    Coupled (Both fun s => remembers s.shell) (startChild programs command background)
      (startChild programs command background) :=
  both_startChild (fun _ hs => hs) fun _ hs => hs

end

/-- To wait for a child changes nothing but the machine. -/
theorem keeps_waitForeground (pid : Pid) (frame : ∀ s m, holds s → holds { s with machine := m }) :
    Coupled (Both holds) (waitForeground pid) (waitForeground pid) :=
  both_waitForeground fun s hs => frame s _ hs

theorem both_builtin (speech : SameSpeech (Both holds)) (exits : ∀ s, holds s → holds s.exited)
    (moves : ∀ s t, s.Moved t → holds s → holds t) (args : List String) (builtin : Builtin) :
    Coupled (Both holds) (builtin.run args) (builtin.run args) := by
  cases builtin with
  | exit =>
    rintro _ s ⟨rfl, hs⟩
    rw [Builtin.run, exit_run]
    exact .ok _ ⟨rfl, exits s hs⟩
  | cd =>
    rintro _ s ⟨rfl, hs⟩
    obtain ⟨t, runs, moved⟩ := cd_run args s
    rw [Builtin.run, runs]
    exact .ok _ ⟨rfl, moves s t moved hs⟩
  | status =>
    exact both_get_bind fun s _ => (speech.writeLine _).bind fun _ => speech.flush.bind fun _ =>
      coupled_pure _

/-! Commands and lines. -/

variable {programs : Programs} {command other : Command}

theorem executed_of_leaves (hn : s.machine.children.Numbered)
    (h : Leaves (execute programs command) s t) : ∃ result, s.Executed command result t := by
  rcases execute_run programs command hn with ⟨status, u, hrun, executed⟩ |
    ⟨e, u, hrun, executed⟩
  · rcases h with ⟨x, hleaves⟩ | ⟨x, hleaves⟩
    · cases hrun.symm.trans hleaves
      exact ⟨_, executed⟩
    · cases hrun.symm.trans hleaves
  · rcases h with ⟨x, hleaves⟩ | ⟨x, hleaves⟩
    · cases hrun.symm.trans hleaves
    · cases hrun.symm.trans hleaves
      exact ⟨_, executed⟩

/-- Commands with the same words are coupled if they are as built-in commands and as programs. -/
theorem coupled_execute (words : other.argv = command.argv)
    (status : ∀ s t, R s t → t.shell.status = s.shell.status)
    (builtin : ∀ builtin : Builtin, Builtin.ofName? command.name = some builtin →
      Coupled R (builtin.run command.args) (builtin.run command.args))
    (child : ∀ s t, R s t → Alike R
      ((runChild programs command (command.background && s.shell.mode.allowsBackground)).run s)
      ((runChild programs other (other.background && t.shell.mode.allowsBackground)).run t)) :
    Coupled R (execute programs command) (execute programs other) := by
  have name : other.name = command.name := by rw [Command.name, words, Command.name]
  have args : other.args = command.args := by rw [Command.args, words, Command.args]
  refine coupled_get_bind fun s t related => ?_
  rw [words, name, args, status s t related]
  split
  · exact .ok _ related
  · split
    · next found => exact builtin _ found s t related
    · refine coupled_get_bind (fun s t related => ?_) s t related
      rw [words, name]
      split
      · exact .error _ related
      · exact child s t related

theorem coupled_executeOrComplain (speaks : SameSpeech R)
    (executes : Coupled R (execute programs command) (execute programs other)) :
    Coupled R (executeOrComplain programs command) (executeOrComplain programs other) := by
  refine executes.tryCatch fun e => ?_
  split
  · exact coupled_throw _
  · exact (speaks.complain _).bind fun _ => coupled_pure _

theorem executeOrComplain_congr {other : Command}
    (h : (execute programs command).run s = (execute programs other).run s) :
    (executeOrComplain programs command).run s = (executeOrComplain programs other).run s := by
  have h' : execute programs command s = execute programs other s := h
  simp only [executeOrComplain, EStateM.run, tryCatch, tryCatchThe, MonadExceptOf.tryCatch,
    EStateM.tryCatch, h']

/-- Two lines come to the same if the commands that they are read as do. -/
theorem runLine_alike
    (remembers : ∀ s t status, R s t → R (s.remembering status) (t.remembering status))
    {line line' : String} (parses : parse line s.pid = .ok (some command))
    (parses' : parse line' t.pid = .ok (some other))
    (outcomes : Alike R ((executeOrComplain programs command).run s)
      ((executeOrComplain programs other).run t)) :
    Alike R ((runLine programs line).run s) ((runLine programs line').run t) := by
  rw [runLine_run parses, runLine_run parses']
  generalize (executeOrComplain programs command).run s = ran,
    (executeOrComplain programs other).run t = ran' at outcomes
  cases outcomes with
  | ok status related => exact .ok () (remembers _ _ status related)
  | error e related => exact .error e related

/-- Lines are coupled if reports and each of the lines are, and the `exit` at their end. -/
theorem coupled_runLines (exits : ∀ s t, R s t → t.shell.shouldExit = s.shell.shouldExit)
    (reports : Coupled R reportFinishedJobs reportFinishedJobs)
    (ends : Coupled R (runLine programs "exit") (runLine programs "exit")) {lines : List String}
    (each : ∀ line ∈ lines, Coupled R (runLine programs line) (runLine programs line)) :
    Coupled R (runLines programs lines) (runLines programs lines) := by
  induction lines with
  | nil => exact ends
  | cons text rest ih =>
    obtain ⟨first, later⟩ := List.forall_mem_cons.mp each
    refine reports.bind fun _ => first.bind fun _ => coupled_get_bind fun s t related => ?_
    rw [exits s t related]
    split
    · exact .ok () related
    · exact ih later s t related

/-! What related sessions have to agree in, so that whole lines leave them related. -/

/-- Related sessions agree in what decides how a line goes on, and what is said and whatever a child
does leaves them related. -/
structure Agreed (programs : Programs) (R : Session → Session → Prop) : Prop where
  speech : SameSpeech R
  status : ∀ s t, R s t → t.shell.status = s.shell.status
  mode : ∀ s t, R s t → t.shell.mode = s.shell.mode
  pid : ∀ s t, R s t → t.pid = s.pid
  requested : ∀ s t, R s t → t.machine.signals.requested = s.machine.signals.requested
  remembers : ∀ s t status, R s t → R (s.remembering status) (t.remembering status)
  runs : ∀ command background, Coupled R (runChild programs command background)
    (runChild programs command background)

namespace Agreed

theorem execute (h : Agreed programs R)
    (builtin : ∀ builtin : Builtin, Builtin.ofName? command.name = some builtin →
      Coupled R (builtin.run command.args) (builtin.run command.args)) :
    Coupled R (execute programs command) (execute programs command) := by
  refine coupled_execute rfl h.status builtin fun s t related => ?_
  rw [h.mode s t related]
  exact h.runs _ _ s t related

theorem runLine (h : Agreed programs R) (related : R s t) (line : String)
    (executes : ∀ command, parse line s.pid = .ok (some command) →
      Coupled R (Session.execute programs command) (Session.execute programs command)) :
    Alike R ((runLine programs line).run s) ((runLine programs line).run t) := by
  have samePid := h.pid s t related
  cases parses : parse line s.pid with
  | ok read =>
    cases read with
    | none =>
      simp only [Session.runLine, EStateM.run_bind, EStateM.run_get, samePid, parses]
      exact .ok _ related
    | some command =>
      exact runLine_alike h.remembers parses (samePid ▸ parses)
        (coupled_executeOrComplain h.speech (executes command parses) s t related)
  | error e =>
    simp only [Session.runLine, EStateM.run_bind, EStateM.run_get, samePid, parses]
    exact h.speech.complain _ s t related

theorem sync (h : Agreed programs R)
    (switches : ∀ s t mode, R s t → R (s.switched mode) (t.switched mode)) :
    Coupled R syncMode syncMode := by
  refine coupled_get_bind fun s t related => ?_
  rw [h.requested s t related, h.mode s t related]
  dsimp only
  split
  · exact ((coupled_modify fun s t related => switches s t _ related).bind fun _ =>
      (h.speech.writeLine _).bind fun _ => h.speech.flush) s t related
  · exact .ok () related

end Agreed

/-! What a relation has to be respected by, so that whole lines respect it. -/

/-- Related sessions agree in what decides how a line goes on, and the steps that a line is made of
leave them related. -/
structure Respected (programs : Programs) (R : Session → Session → Prop) : Prop where
  speech : SameSpeech R
  status : ∀ s t, R s t → t.shell.status = s.shell.status
  mode : ∀ s t, R s t → t.shell.mode = s.shell.mode
  shouldExit : ∀ s t, R s t → t.shell.shouldExit = s.shell.shouldExit
  pid : ∀ s t, R s t → t.pid = s.pid
  requested : ∀ s t, R s t → t.machine.signals.requested = s.machine.signals.requested
  remembers : ∀ s t status, R s t → R (s.remembering status) (t.remembering status)
  lists : ∀ s t pid text, R s t → R (s.listing pid text) (t.listing pid text)
  reaps : ∀ s t, R s t → t.reports = s.reports ∧ R s.reaping t.reaping
  forks : Coupled R fork fork
  starts : ∀ command background, Coupled R (startChild programs command background)
    (startChild programs command background)
  waits : ∀ pid, Coupled R (waitForeground pid) (waitForeground pid)

/-- The same for what single sessions have. -/
theorem both_respected (speech : SameSpeech (Both holds))
    (remembers : ∀ s status, holds s → holds (s.remembering status))
    (lists : ∀ s pid text, holds s → holds (s.listing pid text))
    (reaps : ∀ s, holds s → holds s.reaping) (counts : ∀ s, holds s → holds s.forked)
    (starts : ∀ command background, Coupled (Both holds) (startChild programs command background)
      (startChild programs command background))
    (waits : ∀ pid, Coupled (Both holds) (waitForeground pid) (waitForeground pid)) :
    Respected programs (Both holds) where
  speech := speech
  status := by rintro _ s ⟨rfl, -⟩; rfl
  mode := by rintro _ s ⟨rfl, -⟩; rfl
  shouldExit := by rintro _ s ⟨rfl, -⟩; rfl
  pid := by rintro _ s ⟨rfl, -⟩; rfl
  requested := by rintro _ s ⟨rfl, -⟩; rfl
  remembers := by rintro _ s status ⟨rfl, hs⟩; exact ⟨rfl, remembers s status hs⟩
  lists := by rintro _ s pid text ⟨rfl, hs⟩; exact ⟨rfl, lists s pid text hs⟩
  reaps := by rintro _ s ⟨rfl, hs⟩; exact ⟨rfl, rfl, reaps s hs⟩
  forks := both_fork counts
  starts := starts
  waits := waits

namespace Respected

theorem runChild (h : Respected programs R) (command : Command) (background : Bool) :
    Coupled R (runChild programs command background) (runChild programs command background) := by
  refine h.speech.flush.bind fun _ => h.forks.bind fun _ =>
    (h.starts command background).bind fun pid => ?_
  split
  · refine (coupled_modify fun s t related => h.lists s t pid command.text related).bind fun _ =>
      (h.speech.writeLine _).bind fun _ => h.speech.flush.bind fun _ =>
        coupled_get_bind fun s t related => ?_
    rw [h.status s t related]
    exact .ok _ related
  · exact h.waits pid

theorem agreed (h : Respected programs R) : Agreed programs R :=
  { h with runs := h.runChild }

theorem execute (h : Respected programs R)
    (builtin : ∀ builtin : Builtin, Builtin.ofName? command.name = some builtin →
      Coupled R (builtin.run command.args) (builtin.run command.args)) :
    Coupled R (execute programs command) (execute programs command) :=
  h.agreed.execute builtin

theorem runLine (h : Respected programs R) (related : R s t) (line : String)
    (executes : ∀ command, parse line s.pid = .ok (some command) →
      Coupled R (Session.execute programs command) (Session.execute programs command)) :
    Alike R ((runLine programs line).run s) ((runLine programs line).run t) :=
  h.agreed.runLine related line executes

theorem line (h : Respected programs R)
    (builtins : ∀ args (builtin : Builtin), Coupled R (builtin.run args) (builtin.run args))
    (line : String) : Coupled R (Session.runLine programs line) (Session.runLine programs line) :=
  fun _ _ related => h.runLine related line fun _ _ => h.execute fun builtin _ => builtins _ builtin

theorem report (h : Respected programs R) : Coupled R reportFinishedJobs reportFinishedJobs := by
  intro s t related
  obtain ⟨reports, reaps⟩ := h.reaps s t related
  have lines : t.doneLines = s.doneLines := by rw [doneLines, reports, doneLines]
  rw [report_run, report_run, lines]
  exact ((coupled_forM _ fun _ _ => h.speech.writeLine _).bind fun _ => h.speech.flush) _ _ reaps

theorem sync (h : Respected programs R)
    (switches : ∀ s t mode, R s t → R (s.switched mode) (t.switched mode)) :
    Coupled R syncMode syncMode :=
  h.agreed.sync switches

theorem lines (h : Respected programs R)
    (builtins : ∀ args (builtin : Builtin), Coupled R (builtin.run args) (builtin.run args))
    (lines : List String) : Coupled R (runLines programs lines) (runLines programs lines) :=
  coupled_runLines h.shouldExit h.report (h.line builtins "exit") fun line _ => h.line builtins line

end Respected

end JobShell.Session
