import JobShell.Proofs.Coupling
import JobShell.Proofs.Overlooking
import JobShell.Proofs.Trees

/-!
The directory that the shell believes to be in is that of its process. `cd` changes both or neither,
no other step changes either of them, and nothing that the shell does itself changes where a
directory is. So the two stay in step for as long as no child renames or removes a directory.
-/

namespace JobShell

namespace FileSystem

/-- No directory was renamed or removed: each has the path that it had. -/
structure Settled (fs later : FileSystem) : Prop where
  paths : ∀ id path, fs.pathOf? id = some path → later.pathOf? id = some path
  proper : fs.Proper → later.Proper

/-- The path leads to a directory that can be entered, and this is its own path without links. -/
structure LeadsTo (fs : FileSystem) (cwd : NodeId) (path : String) (id : NodeId)
    (canonical : String) : Prop where
  nonempty : path ≠ ""
  noNul : '\x00' ∉ path.toList
  starts : isAbsolute path = true ∨ fs.isReachable cwd = true
  walks : ∃ place, fs.walk true maxLinks (if isAbsolute path then root else cwd) (pathNames path) =
    .ok place ∧ place.node? = some id
  enters : ∃ d, fs.directory? id = some d ∧ d.grants .execute = true
  own : fs.pathOf? id = some canonical
  short : canonical.utf8ByteSize < maxPathBytes

variable {fs later last : FileSystem} {cwd id : NodeId} {path canonical : String}

theorem Grows.settled (h : fs.Grows later) : fs.Settled later :=
  ⟨fun _ _ => h.pathOf?, h.proper⟩

theorem Settled.refl (fs : FileSystem) : fs.Settled fs :=
  ⟨fun _ _ h => h, fun h => h⟩

theorem Settled.trans (first : fs.Settled later) (second : later.Settled last) : fs.Settled last :=
  ⟨fun id path h => second.paths id path (first.paths id path h),
    fun h => second.proper (first.proper h)⟩

theorem canonicalDirectory?_eq_some :
    fs.canonicalDirectory? cwd path = some (id, canonical) ↔ fs.LeadsTo cwd path id canonical := by
  unfold canonicalDirectory?
  constructor
  · intro h
    split at h
    · cases h
    · next starts =>
      simp only [Bool.or_eq_true, decide_eq_true_eq, Bool.and_eq_true, Bool.not_eq_true', not_or,
        not_and, Bool.not_eq_false, List.contains_iff_mem] at starts
      split at h
      · next place walks =>
        obtain ⟨found, node, h⟩ := Option.bind_eq_some_iff.mp h
        obtain ⟨d, directory, h⟩ := Option.bind_eq_some_iff.mp h
        obtain ⟨own, pathOf, h⟩ := Option.bind_eq_some_iff.mp h
        split at h
        · next allowed =>
          obtain ⟨rfl, rfl⟩ := Prod.mk.inj (Option.some.inj h)
          simp only [Bool.and_eq_true, decide_eq_true_eq] at allowed
          exact ⟨starts.1.1, starts.1.2, or_iff_not_imp_left.mpr (by simpa using starts.2),
            ⟨place, walks, node⟩, ⟨d, directory, allowed.1⟩, pathOf, allowed.2⟩
        · cases h
      · cases h
  · rintro ⟨nonempty, noNul, starts, ⟨place, walks, node⟩, ⟨d, directory, enters⟩, own, short⟩
    have goes : ¬ (path = "" || path.toList.contains '\x00' ||
        (!isAbsolute path && !fs.isReachable cwd)) = true := by
      rcases starts with starts | starts <;> simp [nonempty, noNul, starts]
    rw [if_neg goes]
    simp [walks, node, directory, own, enters, short]

end FileSystem

namespace Store
variable {store : Store} {cwd : NodeId} {dir path full : String}

/-- Stores of which the later one has the directories of the earlier one. -/
def Settled (store later : Store) : Prop :=
  store.files.Settled later.files

/-- Seen from a directory, `path` names what the absolute path `full` names. A walk along `full` can
only be refused where a directory above is not to be searched; if all may be, and `full` is not too
long for a request, then to open one is to open the other. -/
structure NamesAs (store : Store) (cwd : NodeId) (path full : String) : Prop where
  walks : ∀ follow links,
    store.files.walk follow links FileSystem.root (pathNames full) =
        store.files.walk follow links cwd (pathNames path) ∨
      store.files.walk follow links FileSystem.root (pathNames full) = .error .denied ∧
        ∃ above, store.files.Above above cwd ∧ store.files.grants above .execute = false
  opens : full.utf8ByteSize < maxPathBytes →
    (∀ above, store.files.Above above cwd → store.files.grants above .execute = true) →
    ∀ own start,
      store.openForReading own start full = store.openForReading own cwd path ∧
      ∀ mode position, store.openForWriting own start full mode position =
        store.openForWriting own cwd path mode position

private theorem namesAs_joinPath (proper : store.files.Proper)
    (here : store.files.pathOf? cwd = some dir)
    (relative : isAbsolute path = false) (nonempty : path ≠ "") :
    store.NamesAs cwd path (joinPath dir path) where
  walks := FileSystem.walk_joinPath proper here relative nonempty
  opens short searchable own start := by
    have located : store.files.locate start (joinPath dir path) true =
        store.files.locate cwd path true :=
      FileSystem.locate_joinPath proper here relative nonempty short searchable true start
    refine ⟨?_, fun mode position => ?_⟩
    · simp only [openForReading, find, FileSystem.find, located]
    · simp only [openForWriting, located]

end Store

namespace Session
variable {programs : Programs} {s t : Session}

/-- The directory on record is that of the process. -/
def InPlace (s : Session) : Prop :=
  s.machine.store.files.pathOf? s.machine.cwd = some s.shell.env.currentDir

/-- In no step on the way a directory is renamed or removed. -/
def Undisturbed (programs : Programs) : Session → List SessionStep → Prop
  | _, [] => True
  | s, step :: rest =>
    s.machine.store.Settled (s.after programs step).machine.store ∧
      Undisturbed programs (s.after programs step) rest

/-! What `cd` does. -/

/-- `cd` moves the process and what is on record to the directory that its target leads to, or
does nothing if there is none. -/
theorem runCd_moves (args : List String) (s : Session) :
    (∃ target id canonical, Builtin.cdTarget s.shell.env args = some target ∧
      s.machine.store.files.LeadsTo s.machine.cwd (s.shell.env.resolve target) id canonical ∧
      (Builtin.runCd args).run s = .ok s.shell.status
        { s with machine.cwd := id, shell.env.currentDir := canonical }) ∨
    (∀ target id canonical, Builtin.cdTarget s.shell.env args = some target →
      ¬ s.machine.store.files.LeadsTo s.machine.cwd (s.shell.env.resolve target) id canonical) ∧
      (Builtin.runCd args).run s = .ok s.shell.status s := by
  simp only [Builtin.runCd, EStateM.run_bind, EStateM.run_get]
  split
  · next none => exact .inr ⟨fun target id canonical h => by simp [none] at h, rfl⟩
  · next target named =>
    split
    · next none =>
      refine .inr ⟨fun other id canonical h leads => ?_, rfl⟩
      obtain rfl := Option.some.inj (named.symm.trans h)
      cases none.symm.trans (FileSystem.canonicalDirectory?_eq_some.mpr leads)
    · next id canonical leads =>
      exact .inl ⟨target, id, canonical, named, FileSystem.canonicalDirectory?_eq_some.mp leads, rfl⟩

theorem execute_cd {command : Command} (name : Builtin.ofName? command.name = some .cd) :
    (execute programs command).run s = (Builtin.runCd command.args).run s := by
  have words : command.argv ≠ [] := by
    intro none
    simp [Command.name, none, Builtin.ofName?] at name
  simp only [execute, EStateM.run_bind, EStateM.run_get, words, if_false, name]
  rfl

/-! What the other steps do: they leave the shell and its process where they are. -/

/-- The process is in this directory, and that one is on record. -/
structure StaysAt (cwd : NodeId) (dir : String) (s : Session) : Prop where
  cwd : s.machine.cwd = cwd
  dir : s.shell.env.currentDir = dir

section
variable {cwd : NodeId} {dir : String}

private theorem stays_speech : SameSpeech (Both (StaysAt cwd dir)) :=
  both_speech (fun _ _ hs => ⟨hs.cwd, hs.dir⟩) fun _ _ hs => ⟨hs.cwd, hs.dir⟩

private theorem stays_respected : Respected programs (Both (StaysAt cwd dir)) :=
  both_respected stays_speech (fun _ _ hs => ⟨hs.cwd, hs.dir⟩)
    (fun _ _ _ hs => ⟨hs.cwd, hs.dir⟩) (fun _ hs => ⟨hs.cwd, hs.dir⟩)
    (fun _ hs => ⟨hs.cwd, hs.dir⟩)
    (fun _ _ => both_startChild (fun _ hs => ⟨hs.cwd, hs.dir⟩)
      fun _ hs => ⟨(Machine.advance_cwd _ _).trans hs.cwd, hs.dir⟩)
    fun _ => both_waitForeground fun _ hs => ⟨(Machine.await_cwd _ _).trans hs.cwd, hs.dir⟩

private theorem stays_builtin (args : List String) {builtin : Builtin} (other : builtin ≠ .cd) :
    Coupled (Both (StaysAt cwd dir)) (builtin.run args) (builtin.run args) := by
  cases builtin with
  | exit =>
    rintro _ s ⟨rfl, hs⟩
    rw [Builtin.run, exit_run]
    exact .ok _ ⟨rfl, hs.cwd, hs.dir⟩
  | cd => exact absurd rfl other
  | status =>
    exact both_get_bind fun s _ => (stays_speech.writeLine _).bind fun _ =>
      stays_speech.flush.bind fun _ => coupled_pure _

end

/-- A step that is no `cd` leaves the shell and its process where they are; after a `cd` they are in
one directory, of a tree that it has not changed. -/
theorem after_place (programs : Programs) (s : Session) {step : SessionStep}
    (single : step.IsSingle) :
    StaysAt s.machine.cwd s.shell.env.currentDir (s.after programs step) ∨
      (s.after programs step).machine.store = s.machine.store ∧ (s.after programs step).InPlace := by
  have here : StaysAt s.machine.cwd s.shell.env.currentDir s := ⟨rfl, rfl⟩
  have respected : Respected programs (Both (StaysAt s.machine.cwd s.shell.env.currentDir)) :=
    stays_respected
  cases step with
  | line text =>
    by_cases cd : ∃ command, parse text s.pid = .ok (some command) ∧
        Builtin.ofName? command.name = some .cd
    · obtain ⟨command, parses, name⟩ := cd
      have after {t : Session} (runs : (Builtin.runCd command.args).run s = .ok s.shell.status t) :
          s.after programs (.line text) = t.remembering s.shell.status := by
        rw [after, outcome, perform, runLine_run parses,
          executeOrComplain_ok ((execute_cd name).trans runs)]
      rcases runCd_moves command.args s with ⟨target, id, canonical, -, leads, runs⟩ | ⟨-, runs⟩
      · rw [after runs]
        exact .inr ⟨rfl, leads.own⟩
      · rw [after runs]
        exact .inl ⟨rfl, rfl⟩
    · refine .inl (respected.runLine ⟨rfl, here⟩ text fun command parses =>
        respected.execute fun builtin found => stays_builtin _ ?_).outcome.2.2
      rintro rfl
      exact cd ⟨command, parses, found⟩
  | lines texts => exact single.elim
  | report => exact .inl (respected.report s s ⟨rfl, here⟩).outcome.2.2
  | sync =>
    refine .inl (respected.sync ?_ s s ⟨rfl, here⟩).outcome.2.2
    rintro _ s mode ⟨rfl, hs⟩
    exact ⟨rfl, hs.cwd, hs.dir⟩
  | pass time => exact .inl ⟨Machine.advance_cwd _ _, rfl⟩
  | toggle | signal | signalChild | writer => exact .inl ⟨rfl, rfl⟩

theorem InPlace.after {step : SessionStep} (single : step.IsSingle) (here : s.InPlace)
    (settled : s.machine.store.Settled (s.after programs step).machine.store) :
    (s.after programs step).InPlace := by
  rcases after_place programs s single with stays | ⟨-, moved⟩
  · rw [InPlace, stays.cwd, stays.dir]
    exact settled.paths _ _ here
  · exact moved

theorem InPlace.afterAll {steps : List SessionStep} (single : ∀ step ∈ steps, step.IsSingle)
    (here : s.InPlace) (undisturbed : Undisturbed programs s steps) :
    (s.afterAll programs steps).InPlace := by
  induction steps generalizing s with
  | nil => exact here
  | cons step rest ih =>
    obtain ⟨first, rest⟩ := List.forall_mem_cons.mp single
    exact ih rest (here.after first undisturbed.1) undisturbed.2

/-! What the shell does itself moves no directory. -/

/-- No directory was renamed or removed since, and no child does that. -/
structure Settling (before : Store) (s : Session) : Prop where
  store : before.Settled s.machine.store
  children : s.machine.children.Overlook (Since Store.Settled)

section
variable {before : Store}

theorem Settling.like (h : s.Settling before) :
    Machine.Like (Since Store.Settled) s.machine before s.machine s.machine :=
  ⟨rfl, ⟨rfl, h.store⟩, h.children, rfl, rfl, rfl⟩

theorem Settling.of_like {frame : Machine}
    (like : Machine.Like (Since Store.Settled) frame before t.machine t.machine) :
    t.Settling before :=
  ⟨like.store.2, like.children⟩

private theorem settling_speech : SameSpeech (Both (Settling before)) := by
  refine both_speech (fun _ _ hs => ⟨hs.store, hs.children⟩) fun s text hs => ⟨?_, hs.children⟩
  dsimp only
  split
  · exact hs.store.trans (Store.writeText_grows _ _ _).settled
  · exact hs.store

private theorem settling_respected (proper : before.files.Proper)
    (overlook : ∀ launch, (programs launch).Overlooks (Since Store.Settled)) :
    Respected programs (Both (Settling before)) := by
  refine both_respected settling_speech (fun _ _ hs => ⟨hs.store, hs.children⟩)
    (fun _ _ _ hs => ⟨hs.store, hs.children⟩) (fun _ hs => ⟨hs.store, hs.children.reap _⟩)
    (fun _ hs => ⟨hs.store, hs.children⟩)
    (fun command background => both_startChild (fun s hs => ?_)
      fun s hs => .of_like (hs.like.advance 1))
    fun pid => both_waitForeground fun s hs => ?_
  · have grows := Departure.make_grows programs command background (hs.store.proper proper)
    exact ⟨hs.store.trans grows.settled,
      hs.children.start _ (Departure.make_overlooks overlook s command background)⟩
  · have waits := ((hs.like.withSignals s.machine.signals.block).await pid).2
    exact .of_like (waits.withSignals (s.awaited pid).2.signals.unblock)

private theorem settling_builtin (args : List String) (builtin : Builtin) :
    Coupled (Both (Settling before)) (builtin.run args) (builtin.run args) := by
  refine both_builtin settling_speech (fun s hs => ⟨hs.store, ?_⟩) ?_ args builtin
  · exact List.foldlRecOn _ _ hs.children fun _ hc _ _ => hc.signal _ _
  · rintro s _ ⟨cwd, dir, rfl⟩ hs
    exact ⟨hs.store, hs.children⟩

theorem Settling.after (proper : before.files.Proper)
    (overlook : ∀ launch, (programs launch).Overlooks (Since Store.Settled)) (hs : s.Settling before)
    (step : SessionStep) : (s.after programs step).Settling before := by
  have respected : Respected programs (Both (Settling before)) := settling_respected proper overlook
  cases step with
  | line text => exact (respected.line settling_builtin text s s ⟨rfl, hs⟩).outcome.2.2
  | lines texts => exact (respected.lines settling_builtin texts s s ⟨rfl, hs⟩).outcome.2.2
  | report => exact (respected.report s s ⟨rfl, hs⟩).outcome.2.2
  | sync =>
    refine (respected.sync ?_ s s ⟨rfl, hs⟩).outcome.2.2
    rintro _ s mode ⟨rfl, hs⟩
    exact ⟨rfl, hs.store, hs.children⟩
  | toggle | signal | writer => exact ⟨hs.store, hs.children⟩
  | signalChild pid signal => exact ⟨hs.store, hs.children.signal pid signal⟩
  | pass time => exact .of_like (hs.like.advance time)

end

/-- If no program and no child that is there ever renames or removes a directory, none is. -/
theorem undisturbed_of_keeps (programs : Programs) (s : Session)
    (keep : ∀ launch, (programs launch).Keeps Store.Settled)
    (children : ∀ child ∈ s.machine.children.all, child.Keeps Store.Settled)
    (proper : s.machine.store.files.Proper) (steps : List SessionStep) :
    Undisturbed programs s steps := by
  have trans (x y z : Store) : x.Settled y → y.Settled z → x.Settled z := FileSystem.Settled.trans
  have overlook (launch : Launch) := (keep launch).overlooks trans
  have overlooked : s.machine.children.Overlook (Since Store.Settled) :=
    fun child hm => (children child hm).overlooks trans
  clear children
  induction steps generalizing s with
  | nil => trivial
  | cons step rest ih =>
    have start : s.Settling s.machine.store := ⟨FileSystem.Settled.refl _, overlooked⟩
    have later := start.after proper overlook step
    exact ⟨later.store, ih _ (later.store.proper proper) later.children⟩

theorem Undisturbed.settled {steps : List SessionStep} (h : Undisturbed programs s steps) :
    s.machine.store.Settled (s.afterAll programs steps).machine.store := by
  induction steps generalizing s with
  | nil => exact .refl _
  | cons step rest ih => exact h.1.trans (ih h.2)

/-- `cd` moves the process and what is on record to where its target leads, both or neither, and does
nothing else. So if the directory on record is that of the process, it is after any steps in which no
directory is renamed or removed, and a relative path means to a child what it is resolved to. No
directory is renamed or removed unless a child does it. -/
theorem directory_in_step (programs : Programs) (s : Session) :
    (∀ command : Command, command.name = "cd" →
      (∃ target id canonical, Builtin.cdTarget s.shell.env command.args = some target ∧
        s.machine.store.files.LeadsTo s.machine.cwd (s.shell.env.resolve target) id canonical ∧
        (execute programs command).run s = .ok s.shell.status
          { s with machine.cwd := id, shell.env.currentDir := canonical }) ∨
      (∀ target id canonical, Builtin.cdTarget s.shell.env command.args = some target →
        ¬ s.machine.store.files.LeadsTo s.machine.cwd (s.shell.env.resolve target) id canonical) ∧
        (execute programs command).run s = .ok s.shell.status s) ∧
    (∀ steps : List SessionStep, (∀ step ∈ steps, step.IsSingle) → s.InPlace →
      s.machine.store.files.Proper → Undisturbed programs s steps →
      let t := s.afterAll programs steps
      t.InPlace ∧ ∀ path, isAbsolute path = false → path ≠ "" →
        t.machine.store.NamesAs t.machine.cwd path (t.shell.env.resolve path)) ∧
    ((∀ launch, (programs launch).Keeps Store.Settled) →
      (∀ child ∈ s.machine.children.all, child.Keeps Store.Settled) →
      s.machine.store.files.Proper → ∀ steps, Undisturbed programs s steps) := by
  refine ⟨fun command name => ?_, fun steps single here proper undisturbed => ?_,
    undisturbed_of_keeps programs s⟩
  · rw [execute_cd (by rw [name]; rfl)]
    exact runCd_moves command.args s
  · have place := here.afterAll single undisturbed
    exact ⟨place, fun path relative nonempty =>
      Store.namesAs_joinPath (undisturbed.settled.proper proper) place relative nonempty⟩

def nested : Session :=
  { bare with
    shell.env.currentDir := "/"
    machine.store.files := ⟨#[.directory { parent := 0, entries := [("a", 4)] }, .file 0o644 [],
      .file 0o644 [], .file 0o644 [], .directory { parent := 0 }]⟩ }

private theorem nested_proper : nested.machine.store.files.Proper := by
  have directories (id : NodeId) (d : Directory)
      (h : nested.machine.store.files.directory? id = some d) :
      d.entries = [("a", 4)] ∨ d.entries = [] := by
    have hm : Node.directory d ∈ nested.machine.store.files.nodes :=
      Array.mem_of_getElem? (FileSystem.directory?_eq_some.mp h)
    have : d = { parent := 0, entries := [("a", 4)] } ∨ d = { parent := 0 } := by
      simpa [nested] using hm
    rcases this with rfl | rfl <;> simp
  refine ⟨fun id d h => ?_, fun id d h entry hm => ?_, fun id target h => ?_⟩
  · rcases directories id d h with entries | entries <;> simp [entries]
  · rcases directories id d h with entries | entries
    · obtain rfl : entry = ("a", 4) := by simpa [entries] using hm
      exact ⟨by decide, by decide, by decide, by decide, by decide, by decide⟩
    · simp [entries] at hm
  · have hm : Node.link target ∈ nested.machine.store.files.nodes := Array.mem_of_getElem? h
    simp [nested] at hm

private theorem nested_leadsTo :
    nested.machine.store.files.LeadsTo nested.machine.cwd (nested.shell.env.resolve "a") 4 "/a" where
  nonempty := by decide
  noNul := by decide
  starts := .inl (by decide)
  walks := by
    have names : pathNames (nested.shell.env.resolve "a") = ["a"] := by decide +kernel
    have absolute : isAbsolute (nested.shell.env.resolve "a") = true := by decide
    refine ⟨.entry 0 "a" (some 4), ?_, rfl⟩
    rw [names, absolute]
    rfl
  enters := ⟨_, rfl, by decide⟩
  own := by decide +kernel
  short := by decide

theorem directory_in_step_nested :
    let programs : Programs := fun _ => .atOnce (.exited 0)
    let t := nested.afterAll programs [.line "cd a"]
    t.shell.env.currentDir = "/a" ∧ t.InPlace ∧
      t.machine.store.NamesAs t.machine.cwd "b" (t.shell.env.resolve "b") := by
  intro programs t
  obtain ⟨moves, stays, calm⟩ := directory_in_step programs nested
  have undisturbed := calm (fun _ => .ended .quiet) (fun _ hm => nomatch hm) nested_proper
    [.line "cd a"]
  have here : nested.InPlace := by
    unfold InPlace
    decide +kernel
  obtain ⟨place, names⟩ := stays [.line "cd a"] (by simp [SessionStep.IsSingle]) here nested_proper
    undisturbed
  refine ⟨?_, place, names "b" rfl (by decide)⟩
  have parses : parse "cd a" nested.pid = .ok (some { argv := ["cd", "a"], text := "cd a" }) := by
    decide +kernel
  rcases moves { argv := ["cd", "a"], text := "cd a" } rfl with
    ⟨target, id, canonical, named, leads, runs⟩ | ⟨none, -⟩
  · obtain rfl : "a" = target := Option.some.inj named
    obtain ⟨rfl, rfl⟩ := Prod.mk.inj (Option.some.inj
      ((FileSystem.canonicalDirectory?_eq_some.mpr leads).symm.trans
        (FileSystem.canonicalDirectory?_eq_some.mpr nested_leadsTo)))
    simp only [t, afterAll_cons, afterAll_nil, after, outcome, perform, runLine_run parses,
      executeOrComplain_ok runs]
    rfl
  · exact absurd nested_leadsTo (none "a" 4 "/a" rfl)

end Session

end JobShell
