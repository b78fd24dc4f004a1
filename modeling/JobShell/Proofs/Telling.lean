import JobShell.Session.Line

/-!
How the shell speaks: it writes some lines in order and then flushes, up to the first operation of
the writer that fails.
-/

namespace JobShell

/-- The writer takes that many more texts, counted from now. -/
def Writer.Takes (writer : Writer) (count : Nat) : Prop :=
  ∀ index < count, writer.fault (writer.operations + index) .write = none

/-- No operation of the writer fails. -/
def Writer.Works (writer : Writer) : Prop :=
  ∀ number operation, writer.fault number operation = none

namespace Session

def tell (lines : List String) : Action Unit := do
  lines.forM writeLine
  flush

/-- Some lines were written; besides the writer at most files have changed. -/
structure Wrote (s : Session) (lines : List String) (s' : Session) : Prop where
  rest : s' = { s with writer := s'.writer, machine.store := s'.machine.store }
  fault : s'.writer.fault = s.writer.fault
  written : s'.writer.written = s.writer.written ++ lines.map (· ++ "\n")

/-- What an attempt to write some lines and flush comes to: its error, if it fails, and the state it
leaves. The operations of the writer are counted on. -/
inductive Told (s : Session) (lines : List String) : Option CommandError → Session → Prop
  | whole {s' : Session} (wrote : s.Wrote lines s') (takes : s.writer.Takes lines.length)
      (flushes : s.writer.fault (s.writer.operations + lines.length) .flush = none) :
      Told s lines none s'
  | cut {s' : Session} (count : Nat) {text : String} (short : count < lines.length)
      (wrote : s.Wrote (lines.take count) s') (takes : s.writer.Takes count)
      (fault : s.writer.fault (s.writer.operations + count) .write = some text) :
      Told s lines (some (.output text)) s'
  | unflushed {s' : Session} {text : String} (wrote : s.Wrote lines s')
      (takes : s.writer.Takes lines.length)
      (fault : s.writer.fault (s.writer.operations + lines.length) .flush = some text) :
      Told s lines (some (.output text)) s'

variable {s s' s'' : Session} {lines : List String} {error : Option CommandError}

theorem Wrote.shell (h : s.Wrote lines s') : s'.shell = s.shell := by
  rw [h.rest]

theorem Wrote.history (h : s.Wrote lines s') : s'.history = s.history := by
  rw [h.rest]

theorem Wrote.machine (h : s.Wrote lines s') :
    s'.machine = { s.machine with store := s'.machine.store } :=
  congrArg Session.machine h.rest

theorem Wrote.children (h : s.Wrote lines s') : s'.machine.children = s.machine.children := by
  rw [h.machine]

/-- The lines up to the first write that fails are written. -/
theorem Told.wrote (h : s.Told lines error s') :
    ∃ count, s.Wrote (lines.take count) s' ∧ s.writer.Takes (lines.take count).length ∧
      (lines.drop count ≠ [] → ∃ text, error = some (.output text) ∧
        s.writer.fault (s.writer.operations + (lines.take count).length) .write = some text) := by
  cases h with
  | whole wrote takes =>
    exact ⟨lines.length, by simpa using wrote, by simpa using takes, by simp⟩
  | @cut _ count text short wrote takes fault =>
    have hlength : (lines.take count).length = count :=
      List.length_take_of_le (Nat.le_of_lt short)
    exact ⟨count, wrote, hlength.symm ▸ takes, fun _ => ⟨text, rfl, hlength.symm ▸ fault⟩⟩
  | unflushed wrote takes =>
    exact ⟨lines.length, by simpa using wrote, by simpa using takes, by simp⟩

theorem Told.shell (h : s.Told lines error s') : s'.shell = s.shell := by
  obtain ⟨_, wrote, _⟩ := h.wrote
  exact wrote.shell

theorem Told.history (h : s.Told lines error s') : s'.history = s.history := by
  obtain ⟨_, wrote, _⟩ := h.wrote
  exact wrote.history

theorem Told.children (h : s.Told lines error s') :
    s'.machine.children = s.machine.children := by
  obtain ⟨_, wrote, _⟩ := h.wrote
  exact wrote.children

theorem Told.machine (h : s.Told lines error s') :
    s'.machine = { s.machine with store := s'.machine.store } := by
  obtain ⟨_, wrote, _⟩ := h.wrote
  exact wrote.machine

theorem Told.cwd (h : s.Told lines error s') : s'.machine.cwd = s.machine.cwd := by
  rw [h.machine]

theorem Told.fault (h : s.Told lines error s') : s'.writer.fault = s.writer.fault := by
  obtain ⟨_, wrote, _⟩ := h.wrote
  exact wrote.fault

/-- An error of the writer is an error of output. -/
theorem Told.error_eq {e : CommandError} (h : s.Told lines (some e) s') :
    ∃ text, e = .output text := by
  cases h with
  | cut => exact ⟨_, rfl⟩
  | unflushed => exact ⟨_, rfl⟩

/-- A writer that works never cuts anything off. -/
theorem Told.of_works (h : s.Told lines error s') (works : s.writer.Works) :
    error = none ∧ s.Wrote lines s' := by
  cases h with
  | whole wrote => exact ⟨rfl, wrote⟩
  | cut count short wrote takes fault =>
    rw [works] at fault
    cases fault
  | unflushed wrote takes fault =>
    rw [works] at fault
    cases fault

def counted (s : Session) : Session :=
  { s with writer.operations := s.writer.operations + 1 }

theorem operate_run (operation : WriterOperation) (s : Session) :
    (operate operation).run s =
      match s.writer.fault s.writer.operations operation with
      | some text => .error (.output text) s.counted
      | none => .ok () s.counted := by
  simp only [operate, EStateM.run_bind, EStateM.run_get, EStateM.run_set]
  cases s.writer.fault s.writer.operations operation <;> rfl

private theorem counted_wrote (s : Session) : s.Wrote [] s.counted :=
  ⟨rfl, rfl, by simp [counted]⟩

private def withLine (line : String) (s : Session) : Session :=
  { s.counted with
    writer.written := s.writer.written ++ [line ++ "\n"]
    machine.store :=
      if s.writer.onOutput then s.machine.store.writeText s.machine.streams.output (line ++ "\n")
      else s.machine.store }

private theorem writeLine_run (line : String) (s : Session) :
    (writeLine line).run s =
      match s.writer.fault s.writer.operations .write with
      | some text => .error (.output text) s.counted
      | none => .ok () (s.withLine line) := by
  simp only [writeLine, writeText, EStateM.run_bind, operate_run]
  cases s.writer.fault s.writer.operations .write <;> rfl

private theorem withLine_wrote (line : String) (s : Session) : s.Wrote [line] (s.withLine line) :=
  ⟨rfl, rfl, rfl⟩

theorem Wrote.trans {more : List String} (first : s.Wrote lines s')
    (second : s'.Wrote more s'') : s.Wrote (lines ++ more) s'' where
  rest := by rw [second.rest, first.rest]
  fault := second.fault.trans first.fault
  written := by rw [second.written, first.written, List.map_append, List.append_assoc]

private theorem takes_cons (h : s.writer.fault s.writer.operations .write = none) {line : String}
    {count : Nat} (takes : (s.withLine line).writer.Takes count) : s.writer.Takes (count + 1) := by
  intro index hi
  cases index with
  | zero => exact h
  | succ index =>
    have := takes index (by omega)
    rwa [show s.writer.operations + (index + 1) = (s.withLine line).writer.operations + index by
      simp only [withLine, counted]; omega]

private theorem told_cons {line : String} (h : s.writer.fault s.writer.operations .write = none)
    (told : (s.withLine line).Told lines error s') : s.Told (line :: lines) error s' := by
  have first := withLine_wrote line s
  have operations (count : Nat) : (s.withLine line).writer.operations + count =
      s.writer.operations + (count + 1) := by
    simp only [withLine, counted]
    omega
  cases told with
  | whole wrote takes flushes =>
    rw [operations] at flushes
    exact .whole (first.trans wrote) (takes_cons h takes) flushes
  | cut count short wrote takes fault =>
    rw [operations] at fault
    exact .cut (count + 1) (Nat.succ_lt_succ short) (first.trans wrote) (takes_cons h takes) fault
  | unflushed wrote takes fault =>
    rw [operations] at fault
    exact .unflushed (first.trans wrote) (takes_cons h takes) fault

/-- Lines are written in order up to the first failure of the writer, and then nothing more. -/
theorem tell_run (lines : List String) (s : Session) :
    (∃ s', (tell lines).run s = .ok () s' ∧ s.Told lines none s') ∨
      ∃ e s', (tell lines).run s = .error e s' ∧ s.Told lines (some e) s' := by
  induction lines generalizing s with
  | nil =>
    have hrun : (tell []).run s = flush.run s := rfl
    rw [hrun, flush, operate_run]
    cases hf : s.writer.fault s.writer.operations .flush with
    | none => exact .inl ⟨_, rfl, .whole s.counted_wrote (by simp [Writer.Takes]) hf⟩
    | some text =>
      exact .inr ⟨_, _, rfl, .unflushed s.counted_wrote (by simp [Writer.Takes]) hf⟩
  | cons line lines ih =>
    have hrun : (tell (line :: lines)).run s =
        match (writeLine line).run s with
        | .ok _ s => (tell lines).run s
        | .error e s => .error e s := by
      simp only [tell, EStateM.run_bind]
      rw [show (line :: lines).forM writeLine = (do writeLine line; lines.forM writeLine) from rfl,
        EStateM.run_bind]
      cases (writeLine line).run s <;> rfl
    rw [hrun, writeLine_run]
    cases hf : s.writer.fault s.writer.operations .write with
    | none =>
      rcases ih (s.withLine line) with ⟨s', hrun, told⟩ | ⟨e, s', hrun, told⟩
      · exact .inl ⟨s', hrun, told_cons hf told⟩
      · exact .inr ⟨e, s', hrun, told_cons hf told⟩
    | some text =>
      exact .inr ⟨_, _, rfl, .cut 0 (by simp) s.counted_wrote (by simp [Writer.Takes]) hf⟩

theorem complain_eq (message : String) : complain message = tell [complaint message] := by
  simp [complain, tell]

end Session

end JobShell
