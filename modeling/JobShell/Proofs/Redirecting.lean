import JobShell.Proofs.Opening
import JobShell.Redirection

/-!
Redirections one after the other, with reading and writing in between. What a call opens it opens
anew, and what it cannot open leaves everything as it was; a stream is where the last call put it
that could open a target for it.
-/

namespace JobShell

structure StreamState where
  streams : Streams
  store : Store
  deriving DecidableEq

inductive StreamStep where
  | redirect (r : Redirections)
  | read (count : Nat)
  | write (bytes : Bytes)

namespace StreamState

def stream (s : StreamState) : Direction → Handle
  | .input => s.streams.input
  | .output => s.streams.output

def redirect (cwd : NodeId) (s : StreamState) (r : Redirections) : StreamState :=
  { streams := (r.apply cwd s.streams s.store).streams
    store := (r.apply cwd s.streams s.store).store }

def failure (cwd : NodeId) (s : StreamState) (r : Redirections) : Option Direction :=
  (r.apply cwd s.streams s.store).failed

def take (s : StreamState) (count : Nat) : Bytes × StreamState :=
  match s.store.read s.streams.input count with
  | .ok (bytes, store) => (bytes, { s with store })
  | .error _ => ([], s)

def after (cwd : NodeId) (s : StreamState) : StreamStep → StreamState
  | .redirect r => s.redirect cwd r
  | .read count => (s.take count).2
  | .write bytes => { s with store := s.store.tryWrite s.streams.output bytes }

def afterAll (cwd : NodeId) (s : StreamState) (steps : List StreamStep) : StreamState :=
  steps.foldl (after cwd) s

/-- The call opens its target for the direction. -/
def Opens (cwd : NodeId) (s : StreamState) (r : Redirections) : Direction → Prop
  | .input => r.input ≠ none ∧ s.failure cwd r ≠ some .input
  | .output => r.output ≠ none ∧ s.failure cwd r = none

/-- What is open when a node was just opened for a direction: it is at the start. -/
def fresh (direction : Direction) (id : NodeId) : OpenFile :=
  match direction with
  | .input => { node := id, reads := true }
  | .output => { node := id, writes := true }

/-- The path can be opened for reading, and leads to the node. -/
def Reads (cwd : NodeId) (s : StreamState) (path : String) (id : NodeId) : Prop :=
  s.store.Reads s.streams.handle? cwd path id

/-- The path can be opened for writing, and leads to the node in the files then. -/
def Writes (cwd : NodeId) (s : StreamState) (path : String) (id : NodeId) (files : FileSystem) :
    Prop :=
  s.store.Writes s.streams.handle? cwd path redirectedMode id files

/-- The node that the call can open for the direction. Input comes first. -/
def Target (cwd : NodeId) (s : StreamState) (r : Redirections) (id : NodeId) : Direction → Prop
  | .input => ∃ path, r.input = some path ∧ s.Reads cwd path id
  | .output => ∃ path files, r.output = some path ∧
      (s.redirect cwd { r with output := none }).Writes cwd path id files

/-- What a call makes of the standard input, if it does not fail there. -/
inductive TakesInput (cwd : NodeId) (s : StreamState) (r : Redirections) : StreamState → Prop
  | inherited (none : r.input = none) : TakesInput cwd s r s
  | opened {path : String} {id : NodeId} (given : r.input = some path)
      (reads : s.Reads cwd path id) :
    TakesInput cwd s r
      { streams := { s.streams with input := s.store.opened.size }
        store := { s.store with opened := s.store.opened.push { node := id, reads := true } } }

/-- What a call makes of the standard output then, if it does not fail there. -/
inductive TakesOutput (cwd : NodeId) (s : StreamState) (r : Redirections) : StreamState → Prop
  | inherited (none : r.output = none) : TakesOutput cwd s r s
  | opened {path : String} {id : NodeId} {files : FileSystem} (given : r.output = some path)
      (writes : s.Writes cwd path id files) :
    TakesOutput cwd s r
      { streams := { s.streams with output := s.store.opened.size }
        store := { files, opened := s.store.opened.push { node := id, writes := true } } }

/-- What a call comes to: where it fails, and the state it leaves. -/
inductive Calls (cwd : NodeId) (s : StreamState) (r : Redirections) :
    Option Direction → StreamState → Prop
  | unreadable {path : String} (given : r.input = some path)
      (unreadable : ∀ id, ¬ s.Reads cwd path id) :
    Calls cwd s r (some .input) s
  | unwritable {between : StreamState} {path : String} (input : TakesInput cwd s r between)
      (given : r.output = some path) (unwritable : ∀ id files, ¬ between.Writes cwd path id files) :
    Calls cwd s r (some .output) between
  | done {between s' : StreamState} (input : TakesInput cwd s r between)
      (output : TakesOutput cwd between r s') : Calls cwd s r none s'

variable {cwd : NodeId} {s s' between : StreamState} {r : Redirections} {path : String}

private theorem applyOutput_calls (input : TakesInput cwd s r between) :
    Calls cwd s r (r.applyOutput cwd between.streams between.store).failed
      { streams := (r.applyOutput cwd between.streams between.store).streams
        store := (r.applyOutput cwd between.streams between.store).store } := by
  unfold Redirections.applyOutput
  split
  · next none => exact .done input (.inherited none)
  · next path given =>
    split
    · next output store opens =>
      obtain ⟨id, files, writes, same⟩ := Store.openForWriting_eq_ok_iff.mp opens
      obtain ⟨rfl, rfl⟩ := Prod.mk.inj same
      exact .done input (.opened given writes)
    · next e refused =>
      refine .unwritable input given fun id files writes => ?_
      have opens := Store.openForWriting_eq_ok_iff.mpr ⟨id, files, writes, rfl⟩
      cases refused.symm.trans opens

theorem redirect_calls (cwd : NodeId) (s : StreamState) (r : Redirections) :
    Calls cwd s r (s.failure cwd r) (s.redirect cwd r) := by
  unfold failure redirect Redirections.apply
  split
  · next none => exact applyOutput_calls (.inherited none)
  · next path given =>
    split
    · next input store opens =>
      obtain ⟨id, reads, same⟩ := Store.openForReading_eq_ok_iff.mp opens
      obtain ⟨rfl, rfl⟩ := Prod.mk.inj same
      exact applyOutput_calls (.opened given reads)
    · next e refused =>
      refine .unreadable given fun id reads => ?_
      have opens := Store.openForReading_eq_ok_iff.mpr ⟨id, reads, rfl⟩
      cases refused.symm.trans opens

theorem Reads.unique {id other : NodeId} (h : s.Reads cwd path id) (h' : s.Reads cwd path other) :
    other = id :=
  Except.ok.inj (h'.1.symm.trans h.1)

theorem TakesInput.unique {r' : Redirections} (h : TakesInput cwd s r between)
    (h' : TakesInput cwd s r' s') (same : r'.input = r.input) : s' = between := by
  cases h with
  | inherited none =>
    cases h' with
    | inherited => rfl
    | opened given => cases (given.symm.trans same).trans none
  | opened given reads =>
    cases h' with
    | inherited none => cases (none.symm.trans same).trans given
    | opened given' reads' =>
      obtain rfl := Option.some.inj ((given'.symm.trans same).trans given)
      obtain rfl := reads.unique reads'
      rfl

/-- The first part of a call is the call without its output. -/
theorem TakesInput.redirect (h : TakesInput cwd s r between) :
    s.failure cwd { r with output := none } = none ∧
      s.redirect cwd { r with output := none } = between := by
  have calls := redirect_calls cwd s { r with output := none }
  generalize s.failure cwd { r with output := none } = failed,
    s.redirect cwd { r with output := none } = s' at calls
  cases calls with
  | unreadable given unreadable =>
    cases h with
    | inherited none => cases none.symm.trans given
    | opened given' reads =>
      obtain rfl := Option.some.inj (given'.symm.trans given)
      exact (unreadable _ reads).elim
  | unwritable _ given => cases given
  | done input output =>
    cases output with
    | inherited => exact ⟨rfl, h.unique input rfl⟩
    | opened given => cases given

theorem opens_of_done {direction : Direction} (done : s.failure cwd r = none)
    (given : r.target direction = some path) : s.Opens cwd r direction := by
  have given' : r.target direction ≠ none := by simp [given]
  cases direction with
  | input => exact ⟨given', by simp [done]⟩
  | output => exact ⟨given', done⟩

private theorem stream_redirect {direction : Direction} (unopened : ¬ s.Opens cwd r direction) :
    (s.redirect cwd r).stream direction = s.stream direction := by
  have calls := redirect_calls cwd s r
  have inputStays {between : StreamState} (input : TakesInput cwd s r between) :
      between.stream .output = s.stream .output := by
    cases input <;> rfl
  unfold Opens at unopened
  generalize s.failure cwd r = failed, s.redirect cwd r = s' at calls unopened ⊢
  cases direction with
  | input =>
    cases calls with
    | unreadable => rfl
    | unwritable input =>
      cases input with
      | inherited => rfl
      | opened given => simp [given] at unopened
    | done input output =>
      cases input with
      | inherited => cases output <;> rfl
      | opened given => simp [given] at unopened
  | output =>
    cases calls with
    | unreadable => rfl
    | unwritable input => exact inputStays input
    | done input output =>
      cases output with
      | inherited => exact inputStays input
      | opened given => simp [given] at unopened

/-- The first part of a call changes the standard input at most, and no file. -/
theorem TakesInput.frame (h : TakesInput cwd s r between) :
    between.streams = { s.streams with input := between.streams.input } ∧
      between.store.files = s.store.files := by
  cases h <;> exact ⟨rfl, rfl⟩

private theorem failure_input_iff : s.failure cwd r = some .input ↔
    r.input ≠ none ∧ ∀ id, ¬ s.Target cwd r id .input := by
  have taken {between : StreamState} (input : TakesInput cwd s r between) :
      ¬ (r.input ≠ none ∧ ∀ id, ¬ s.Target cwd r id .input) := by
    rintro ⟨given, none⟩
    cases input with
    | inherited inherits => exact given inherits
    | @opened path id given reads => exact none id ⟨path, given, reads⟩
  have calls := redirect_calls cwd s r
  generalize s.failure cwd r = failed, s.redirect cwd r = s' at calls ⊢
  cases calls with
  | unreadable given unreadable =>
    refine iff_of_true rfl ⟨by simp [given], ?_⟩
    rintro id ⟨other, given', reads⟩
    obtain rfl := Option.some.inj (given'.symm.trans given)
    exact unreadable id reads
  | unwritable input => exact iff_of_false nofun (taken input)
  | done input => exact iff_of_false nofun (taken input)

private theorem failure_output_iff : s.failure cwd r = some .output ↔
    s.failure cwd r ≠ some .input ∧ r.output ≠ none ∧ ∀ id, ¬ s.Target cwd r id .output := by
  have calls := redirect_calls cwd s r
  generalize s.failure cwd r = failed, s.redirect cwd r = s' at calls ⊢
  cases calls with
  | unreadable => simp
  | @unwritable between path input given unwritable =>
    refine iff_of_true rfl ⟨nofun, by simp [given], ?_⟩
    rintro id ⟨other, files, given', writes⟩
    rw [input.redirect.2] at writes
    obtain rfl := Option.some.inj (given'.symm.trans given)
    exact unwritable id files writes
  | done input output =>
    refine iff_of_false nofun ?_
    rintro ⟨-, given, none⟩
    cases output with
    | inherited inherits => exact given inherits
    | @opened path id files given writes =>
      exact none id ⟨path, files, given, input.redirect.2.symm ▸ writes⟩

private theorem opened_first (opened : Array OpenFile) (first second : OpenFile) :
    ((opened.push first).push second)[opened.size]? = some first := by
  have apart : opened.size ≠ (opened.push first).size := by
    rw [Array.size_push]
    exact Nat.ne_of_lt (Nat.lt_succ_self _)
  rw [Array.getElem?_push, if_neg apart, Array.getElem?_push_size]

/-- What a call opens it opens anew, with a number of its own. -/
theorem redirect_opens {direction : Direction} (opens : s.Opens cwd r direction) :
    ∃ id, s.Target cwd r id direction ∧ s.store.opened.size ≤ (s.redirect cwd r).stream direction ∧
      (s.redirect cwd r).store.opened[(s.redirect cwd r).stream direction]? =
        some (fresh direction id) := by
  have calls := redirect_calls cwd s r
  unfold Opens at opens
  generalize s.failure cwd r = failed, s.redirect cwd r = s' at calls opens ⊢
  cases direction with
  | input =>
    cases calls with
    | unreadable => exact absurd rfl opens.2
    | unwritable input =>
      cases input with
      | inherited none => exact absurd none opens.1
      | @opened path id given reads =>
        exact ⟨id, ⟨path, given, reads⟩, Nat.le_refl _, Array.getElem?_push_size⟩
    | done input output =>
      cases input with
      | inherited none => exact absurd none opens.1
      | @opened path id given reads =>
        refine ⟨id, ⟨path, given, reads⟩, ?_, ?_⟩
        · cases output <;> exact Nat.le_refl _
        · cases output with
          | inherited => exact Array.getElem?_push_size
          | opened => exact opened_first _ _ _
  | output =>
    cases calls with
    | unreadable => cases opens.2
    | unwritable => cases opens.2
    | done input output =>
      cases output with
      | inherited none => exact absurd none opens.1
      | @opened path id files given writes =>
        refine ⟨id, ⟨path, files, given, input.redirect.2.symm ▸ writes⟩, ?_, ?_⟩
        · cases input <;> simp [stream]
        · exact Array.getElem?_push_size

/-- A call that opens its output empties the file there or makes one, and changes no other. -/
theorem redirect_files (opens : s.Opens cwd r .output) : ∃ path id, r.output = some path ∧
    (s.redirect cwd { r with output := none }).Writes cwd path id (s.redirect cwd r).store.files ∧
    (s.redirect cwd r).store.opened[(s.redirect cwd r).stream .output]? = some (fresh .output id) ∧
    (s.redirect cwd r).store.files.get? id =
      some (Store.cleared redirectedMode (s.store.files.get? id)) ∧
    ∀ other mode content, other ≠ id → s.store.files.get? other = some (.file mode content) →
      (s.redirect cwd r).store.files.get? other = some (.file mode content) := by
  have calls := redirect_calls cwd s r
  unfold Opens at opens
  generalize s.failure cwd r = failed, s.redirect cwd r = s' at calls opens ⊢
  cases calls with
  | unreadable => cases opens.2
  | unwritable => cases opens.2
  | done input output =>
    cases output with
    | inherited none => exact absurd none opens.1
    | @opened path id files given writes =>
      refine ⟨path, id, given, input.redirect.2.symm ▸ writes, Array.getElem?_push_size, ?_⟩
      rw [← input.frame.2]
      exact ⟨writes.get?_self, fun other mode content apart => writes.get?_other apart⟩

theorem redirect_files_of_unopened (unopened : ¬ s.Opens cwd r .output) :
    (s.redirect cwd r).store.files = s.store.files := by
  have calls := redirect_calls cwd s r
  unfold Opens at unopened
  generalize s.failure cwd r = failed, s.redirect cwd r = s' at calls unopened ⊢
  cases calls with
  | unreadable => rfl
  | unwritable input => exact input.frame.2
  | done input output =>
    cases output with
    | inherited => exact input.frame.2
    | opened given => simp [given] at unopened

private theorem behind_opened {id entry : NodeId}
    (leads : s.store.behind s.streams.handle? entry = .ok id) :
    Store.behind { s.store with opened := s.store.opened.push (fresh .input id) }
      ({ s.streams with input := s.store.opened.size } : Streams).handle? entry = .ok id := by
  unfold Store.behind at leads ⊢
  split at leads
  · next number there =>
    simp only [there]
    cases number with
    | zero => simp [Streams.handle?, fresh]
    | succ number =>
      have sameHandle : ({ s.streams with input := s.store.opened.size } : Streams).handle?
          (number + 1) = s.streams.handle? (number + 1) := by
        match number with
        | 0 | 1 | _ + 2 => rfl
      rw [sameHandle]
      cases hown : s.streams.handle? (number + 1) with
      | none => simp [hown] at leads
      | some handle =>
        simp only [hown, Option.bind_some] at leads ⊢
        split at leads
        · next file open' =>
          have inside := (Array.getElem?_eq_some_iff.mp open').1
          rw [Array.getElem?_push, if_neg (Nat.ne_of_lt inside), open']
          exact leads
        · cases leads
  · exact leads

private theorem redirect_opens_both (input : r.input = some path) (output : r.output = some path)
    (done : s.failure cwd r = none) : ∃ id,
    (s.redirect cwd r).store.opened[(s.redirect cwd r).stream .input]? = some (fresh .input id) ∧
    (s.redirect cwd r).store.opened[(s.redirect cwd r).stream .output]? =
      some (fresh .output id) := by
  have calls := redirect_calls cwd s r
  generalize s.failure cwd r = failed, s.redirect cwd r = s' at calls done ⊢
  subst done
  cases calls with
  | done takesInput takesOutput =>
    cases takesInput with
    | inherited none => cases none.symm.trans input
    | @opened path' id given reads =>
      obtain rfl := Option.some.inj (given.symm.trans input)
      cases takesOutput with
      | inherited none => cases none.symm.trans output
      | @opened path' id' files given' writes =>
        obtain rfl := Option.some.inj (given'.symm.trans output)
        obtain rfl := reads.eq_of_writes writes rfl fun _ => behind_opened
        exact ⟨id', opened_first _ _ _, Array.getElem?_push_size⟩

/-! What is open stays open, and moves on only in its place. -/

/-- Every open file is still open, for the same node, though perhaps elsewhere in it. -/
def Holds (s s' : StreamState) : Prop :=
  ∀ (handle : Handle) (file : OpenFile), s.store.opened[handle]? = some file →
    ∃ offset, s'.store.opened[handle]? = some { file with offset }

private theorem holds_of_same (same : s'.store.opened = s.store.opened) : s.Holds s' :=
  fun _ file there => ⟨file.offset, same ▸ there⟩

theorem Holds.refl (s : StreamState) : s.Holds s :=
  holds_of_same rfl

theorem Holds.trans (first : s.Holds between) (second : between.Holds s') : s.Holds s' := by
  intro handle file there
  obtain ⟨offset, later⟩ := first handle file there
  obtain ⟨offset', last⟩ := second handle _ later
  exact ⟨offset', last⟩

private theorem holds_of_push {file : OpenFile}
    (pushed : s'.store.opened = s.store.opened.push file) : s.Holds s' := by
  intro handle old there
  have inside := (Array.getElem?_eq_some_iff.mp there).1
  refine ⟨old.offset, ?_⟩
  rw [pushed, Array.getElem?_push, if_neg (Nat.ne_of_lt inside), there]

private theorem holds_of_move {handle : Handle} {file : OpenFile} {offset : Nat}
    (there : s.store.opened[handle]? = some file)
    (moved : s'.store.opened = s.store.opened.setIfInBounds handle { file with offset }) :
    s.Holds s' := by
  intro other old hold
  have inside := (Array.getElem?_eq_some_iff.mp hold).1
  rw [moved, Array.getElem?_setIfInBounds]
  split
  · next same =>
    subst same
    obtain rfl := Option.some.inj (there.symm.trans hold)
    exact ⟨offset, by rw [if_pos inside]⟩
  · exact ⟨old.offset, hold⟩

private theorem streams_take (s : StreamState) (count : Nat) :
    (s.take count).2.streams = s.streams := by
  unfold take
  split <;> rfl

private theorem holds_take (s : StreamState) (count : Nat) : s.Holds (s.take count).2 := by
  unfold take Store.read
  split
  · next bytes store hread =>
    split at hread
    · cases hread
    · next file there =>
      split at hread
      · cases hread
      · split at hread
        · cases hread
        · split at hread
          · cases hread
            exact holds_of_same rfl
          · cases hread
            exact holds_of_move there rfl
  · exact .refl s

private theorem holds_write (s : StreamState) (bytes : Bytes) : s.Holds
    (s.after cwd (.write bytes)) := by
  change s.Holds { s with store := s.store.tryWrite s.streams.output bytes }
  unfold Store.tryWrite Store.write
  split
  · next store hwrite =>
    split at hwrite
    · cases hwrite
    · next file there =>
      split at hwrite
      · cases hwrite
      · split at hwrite
        · split at hwrite <;> cases hwrite
          exact .refl s
        · cases hwrite
          exact holds_of_same rfl
        · cases hwrite
          exact holds_of_move there rfl
  · exact .refl s

theorem holds_redirect (s : StreamState) (r : Redirections) : s.Holds (s.redirect cwd r) := by
  have input {between : StreamState} (h : TakesInput cwd s r between) : s.Holds between := by
    cases h with
    | inherited => exact .refl s
    | opened => exact holds_of_push rfl
  have calls := redirect_calls cwd s r
  generalize s.failure cwd r = failed, s.redirect cwd r = s' at calls
  cases calls with
  | unreadable => exact .refl s
  | unwritable taken => exact input taken
  | done taken output =>
    refine (input taken).trans ?_
    cases output with
    | inherited => exact .refl _
    | opened => exact holds_of_push rfl

private theorem holds_afterAll (cwd : NodeId) (s : StreamState) (steps : List StreamStep) :
    s.Holds (s.afterAll cwd steps) := by
  induction steps generalizing s with
  | nil => exact .refl s
  | cons step rest ih =>
    refine Holds.trans ?_ (ih (s.after cwd step))
    cases step with
    | redirect r => exact holds_redirect s r
    | read count => exact holds_take s count
    | write bytes => exact holds_write s bytes

/-! Where a stream leads after several calls. -/

theorem afterAll_append (s : StreamState) (first second : List StreamStep) :
    s.afterAll cwd (first ++ second) = (s.afterAll cwd first).afterAll cwd second :=
  List.foldl_append

/-- No call in some steps opens a target for the direction. -/
def Unopened (cwd : NodeId) (s : StreamState) (direction : Direction) (steps : List StreamStep) :
    Prop :=
  ∀ earlier r later, steps = earlier ++ .redirect r :: later →
    ¬ (s.afterAll cwd earlier).Opens cwd r direction

/-- A stream that no call opens is the one it was. -/
theorem stream_afterAll {direction : Direction} {steps : List StreamStep}
    (unopened : s.Unopened cwd direction steps) :
    (s.afterAll cwd steps).stream direction = s.stream direction := by
  induction steps generalizing s with
  | nil => rfl
  | cons step rest ih =>
    have later : ((s.after cwd step).afterAll cwd rest).stream direction =
        (s.after cwd step).stream direction :=
      ih fun earlier r after split => unopened (step :: earlier) r after (by rw [split]; rfl)
    have now : (s.after cwd step).stream direction = s.stream direction := by
      cases step with
      | redirect r => exact stream_redirect (unopened [] r rest rfl)
      | read count =>
        cases direction with
        | input => exact congrArg Streams.input (streams_take s count)
        | output => exact congrArg Streams.output (streams_take s count)
      | write bytes => cases direction <;> rfl
    exact later.trans now

/-- The last call that opens a target for the direction is the one that says where it leads. -/
theorem opened_afterAll {direction : Direction} {later : List StreamStep}
    (opens : s.Opens cwd r direction) (last : (s.redirect cwd r).Unopened cwd direction later) :
    ∃ id offset, s.Target cwd r id direction ∧
      (s.afterAll cwd (.redirect r :: later)).stream direction =
        (s.redirect cwd r).stream direction ∧
      (s.afterAll cwd (.redirect r :: later)).store.opened[
        (s.afterAll cwd (.redirect r :: later)).stream direction]? =
          some { fresh direction id with offset } := by
  have same : (s.afterAll cwd (.redirect r :: later)).stream direction =
      (s.redirect cwd r).stream direction := stream_afterAll last
  obtain ⟨id, target, -, there⟩ := redirect_opens opens
  obtain ⟨offset, moved⟩ := holds_afterAll cwd (s.redirect cwd r) later _ _ there
  exact ⟨id, offset, target, same, same ▸ moved⟩

/-! Input and output in one file. -/

def written (steps : List StreamStep) : Bytes :=
  steps.flatMap fun
    | .write bytes => bytes
    | _ => []

def readIn (cwd : NodeId) (s : StreamState) : List StreamStep → Bytes
  | [] => []
  | .read count :: rest => (s.take count).1 ++ (s.after cwd (.read count)).readIn cwd rest
  | step :: rest => (s.after cwd step).readIn cwd rest

/-- Both streams lead to one regular file, in which input has been read up to some place and output
goes on at the end. -/
structure Shares (s : StreamState) (id : NodeId) (mode : Nat) (content : Bytes) (place : Nat) :
    Prop where
  input : s.store.opened[s.streams.input]? = some { node := id, reads := true, offset := place }
  output : s.store.opened[s.streams.output]? =
    some { node := id, writes := true, offset := content.length }
  regular : s.store.files.get? id = some (.file mode content)
  inside : place ≤ content.length

variable {id : NodeId} {mode place : Nat} {content : Bytes}

theorem Shares.apart (h : s.Shares id mode content place) : s.streams.input ≠ s.streams.output := by
  intro same
  have both := h.input.symm.trans (same ▸ h.output)
  simp at both

theorem Shares.take (h : s.Shares id mode content place) (count : Nat) :
    (s.take count).1 = (content.drop place).take count ∧
      (s.take count).2.Shares id mode content
        (place + ((content.drop place).take count).length) := by
  have reads : s.store.read s.streams.input count = .ok ((content.drop place).take count,
      { files := s.store.files
        opened := s.store.opened.setIfInBounds s.streams.input
          { node := id, reads := true
            offset := place + ((content.drop place).take count).length } }) := by
    simp only [Store.read, h.input, Store.peek, h.regular, Bool.not_true, Bool.false_eq_true,
      if_false]
  have inside := (Array.getElem?_eq_some_iff.mp h.input).1
  unfold StreamState.take
  rw [reads]
  refine ⟨rfl, ?_, ?_, h.regular, ?_⟩
  · simp [inside]
  · rw [Array.getElem?_setIfInBounds, if_neg h.apart, h.output]
  · have length : ((content.drop place).take count).length ≤ content.length - place := by
      rw [List.length_take, List.length_drop]
      exact Nat.min_le_right _ _
    have inside := h.inside
    omega

theorem Shares.write (h : s.Shares id mode content place) (cwd : NodeId) (bytes : Bytes) :
    (s.after cwd (.write bytes)).Shares id mode (content ++ bytes) place := by
  have inside := (Array.getElem?_eq_some_iff.mp h.output).1
  simp only [StreamState.after, Store.tryWrite_at_end h.output h.regular]
  refine ⟨?_, ?_, FileSystem.get?_set_self (FileSystem.lt_size_of_get? h.regular) _, ?_⟩
  · rw [Array.getElem?_setIfInBounds, if_neg h.apart.symm, h.input]
  · simp [inside]
  · rw [List.length_append]
    exact Nat.le_add_right_of_le h.inside

/-- What is read is what was written, in order. -/
theorem Shares.afterAll {steps : List StreamStep} (h : s.Shares id mode content place)
    (cwd : NodeId) (noCall : ∀ r, .redirect r ∉ steps) :
    ∃ later, (s.afterAll cwd steps).Shares id mode (content ++ written steps) later ∧
      (content ++ written steps).drop place =
        s.readIn cwd steps ++ (content ++ written steps).drop later := by
  induction steps generalizing s content place with
  | nil =>
    exact ⟨place, by simpa [written, StreamState.afterAll] using h, by simp [written, readIn]⟩
  | cons step rest ih =>
    have noCall' (r : Redirections) : .redirect r ∉ rest := fun hm =>
      noCall r (List.mem_cons_of_mem _ hm)
    cases step with
    | redirect r => exact absurd List.mem_cons_self (noCall r)
    | read count =>
      obtain ⟨bytes, shares⟩ := h.take count
      obtain ⟨later, ends, unread⟩ := ih (s := s.after cwd (.read count)) shares noCall'
      have first : (content.drop place).take count <+: (content ++ written rest).drop place := by
        rw [List.drop_append_of_le_length h.inside]
        exact (List.take_prefix _ _).trans (List.prefix_append _ _)
      refine ⟨later, ends, ?_⟩
      have same : written (.read count :: rest) = written rest := rfl
      rw [readIn, bytes, List.append_assoc, same, ← unread, ← List.drop_drop]
      exact (List.prefix_iff_eq_append.mp first).symm
    | write bytes =>
      obtain ⟨later, ends, unread⟩ := ih (h.write cwd bytes) noCall'
      have all : content ++ written (.write bytes :: rest) = content ++ bytes ++ written rest := by
        rw [List.append_assoc]
        rfl
      rw [all]
      exact ⟨later, ends, unread⟩

private theorem shares_redirect (output : s.Opens cwd r .output)
    (reading : (s.redirect cwd r).store.opened[(s.redirect cwd r).stream .input]? =
      some (fresh .input id))
    (writing : (s.redirect cwd r).store.opened[(s.redirect cwd r).stream .output]? =
      some (fresh .output id))
    (regular : (s.redirect cwd r).store.files.get? id = some (.file mode content)) :
    content = [] ∧ (s.redirect cwd r).Shares id mode [] 0 := by
  obtain ⟨path, id', -, -, writing', emptied, -⟩ := redirect_files output
  obtain rfl : id' = id :=
    congrArg OpenFile.node (Option.some.inj (writing'.symm.trans writing))
  have empty : content = [] := by
    rw [regular] at emptied
    have node := Option.some.inj emptied
    unfold Store.cleared at node
    split at node
    · cases node
      rfl
    · cases node
      rfl
    · next notFile there => exact absurd node.symm (notFile _ _)
  subst empty
  exact ⟨rfl, reading, writing, regular, Nat.le_refl _⟩

/-- What a call does to the streams and the files of a process. -/
structure CallEffect (cwd : NodeId) (s : StreamState) (r : Redirections) : Prop where
  /-- It fails at its input if that cannot be opened, whatever its output is. -/
  failsAtInput : s.failure cwd r = some .input ↔
    r.input ≠ none ∧ ∀ id, ¬ s.Target cwd r id .input
  /-- Then it does nothing. -/
  nothing : s.failure cwd r = some .input → s.redirect cwd r = s
  failsAtOutput : s.failure cwd r = some .output ↔
    s.failure cwd r ≠ some .input ∧ r.output ≠ none ∧ ∀ id, ¬ s.Target cwd r id .output
  /-- Then it does what it does without an output. -/
  inputOnly : s.failure cwd r = some .output →
    s.redirect cwd r = s.redirect cwd { r with output := none } ∧
    (s.redirect cwd r).streams = { s.streams with input := (s.redirect cwd r).streams.input }
  /-- What it opens is at its start, under a number that was not in use. -/
  opensAnew (direction : Direction) : s.Opens cwd r direction → ∃ id,
    s.Target cwd r id direction ∧
    s.store.opened.size ≤ (s.redirect cwd r).stream direction ∧
    (s.redirect cwd r).store.opened[(s.redirect cwd r).stream direction]? =
      some (fresh direction id)
  stays (direction : Direction) : ¬ s.Opens cwd r direction →
    (s.redirect cwd r).stream direction = s.stream direction
  /-- A file that it opens for output is empty, and no other file changes. -/
  empties : s.Opens cwd r .output → ∃ path id, r.output = some path ∧
    (s.redirect cwd { r with output := none }).Writes cwd path id (s.redirect cwd r).store.files ∧
    (s.redirect cwd r).store.opened[(s.redirect cwd r).stream .output]? = some (fresh .output id) ∧
    (s.redirect cwd r).store.files.get? id = some (Store.cleared 0o644 (s.store.files.get? id)) ∧
    ∀ other mode content, other ≠ id → s.store.files.get? other = some (.file mode content) →
      (s.redirect cwd r).store.files.get? other = some (.file mode content)
  changesNoFile : ¬ s.Opens cwd r .output → (s.redirect cwd r).store.files = s.store.files

theorem redirect_effect (cwd : NodeId) (s : StreamState) (r : Redirections) :
    s.CallEffect cwd r where
  failsAtInput := failure_input_iff
  nothing failed := by
    have calls := redirect_calls cwd s r
    rw [failed] at calls
    generalize s.redirect cwd r = s' at calls ⊢
    cases calls
    rfl
  failsAtOutput := failure_output_iff
  inputOnly failed := by
    have calls := redirect_calls cwd s r
    rw [failed] at calls
    generalize s.redirect cwd r = s' at calls ⊢
    cases calls with
    | unwritable input => exact ⟨input.redirect.2.symm, input.frame.1⟩
  opensAnew _ := redirect_opens
  stays _ := stream_redirect
  empties := redirect_files
  changesNoFile := redirect_files_of_unopened

/-- Calls compose. Whatever came before, a call has its effect; after any number of them, with
reading and writing in between, each stream is what the last call opened that could, or the one from
before.
Through an input that is the same file as the output, all that is written since can be read. -/
theorem redirections_compose (cwd : NodeId) (s : StreamState) :
    (∀ earlier r, (s.afterAll cwd earlier).CallEffect cwd r) ∧
    (∀ earlier r later direction, (s.afterAll cwd earlier).Opens cwd r direction →
      ((s.afterAll cwd earlier).redirect cwd r).Unopened cwd direction later →
      ∃ id offset, (s.afterAll cwd earlier).Target cwd r id direction ∧
        (s.afterAll cwd (earlier ++ .redirect r :: later)).stream direction =
          ((s.afterAll cwd earlier).redirect cwd r).stream direction ∧
        (s.afterAll cwd (earlier ++ .redirect r :: later)).store.opened[
          (s.afterAll cwd (earlier ++ .redirect r :: later)).stream direction]? =
            some { fresh direction id with offset }) ∧
    (∀ steps direction, s.Unopened cwd direction steps →
      (s.afterAll cwd steps).stream direction = s.stream direction) ∧
    (∀ steps, s.Holds (s.afterAll cwd steps)) ∧
    (∀ r path, r.input = some path → r.output = some path → s.failure cwd r = none → ∃ id,
      (s.redirect cwd r).store.opened[(s.redirect cwd r).stream .input]? = some (fresh .input id) ∧
      (s.redirect cwd r).store.opened[(s.redirect cwd r).stream .output]? =
        some (fresh .output id)) ∧
    ∀ r id mode content, s.Opens cwd r .output →
      (s.redirect cwd r).store.opened[(s.redirect cwd r).stream .input]? = some (fresh .input id) →
      (s.redirect cwd r).store.opened[(s.redirect cwd r).stream .output]? =
        some (fresh .output id) →
      (s.redirect cwd r).store.files.get? id = some (.file mode content) →
      content = [] ∧ ∀ later, (∀ r', .redirect r' ∉ later) →
        ((s.redirect cwd r).afterAll cwd later).store.files.get? id =
          some (.file mode (written later)) ∧
        ∃ unread, written later = (s.redirect cwd r).readIn cwd later ++ unread ∧
          ∀ count, (((s.redirect cwd r).afterAll cwd later).take count).1 = unread.take count := by
  refine ⟨fun earlier r => redirect_effect cwd _ r, ?_, fun steps direction => stream_afterAll,
    fun steps => holds_afterAll cwd s steps, fun r path => redirect_opens_both, ?_⟩
  · intro earlier r later direction opens last
    rw [afterAll_append]
    exact opened_afterAll opens last
  · intro r id mode content output reading writing regular
    obtain ⟨rfl, shares⟩ := shares_redirect output reading writing regular
    refine ⟨rfl, fun later noCall => ?_⟩
    obtain ⟨place, ends, unread⟩ := shares.afterAll cwd noCall
    exact ⟨ends.regular, _, unread, fun count => (ends.take count).1⟩

def filed : StreamState :=
  { streams := { input := 0, output := 1, errors := 2 }
    store.files.nodes :=
      #[.directory { parent := 0, entries := [("f", 1)] }, .file redirectedMode [1, 2]] }

def looped : Redirections := { input := some "f", output := some "f" }

def astray : Redirections := { input := some "f", output := some "d/f" }

private theorem filed_redirect : filed.redirect 0 looped =
    { streams := { input := 0, output := 1, errors := 2 }
      store :=
        { files.nodes :=
            #[.directory { parent := 0, entries := [("f", 1)] }, .file redirectedMode []]
          opened := #[fresh .input 1, fresh .output 1] } } := by
  decide +kernel

private theorem astray_fails :
    (filed.afterAll 0 [.redirect looped, .write [7, 8], .read 1]).failure 0 astray =
      some .output := by
  decide +kernel

/-- Through both streams to one file, what is written can be read. A call that fails at its output
then exchanges the input only. -/
theorem redirections_compose_looped :
    let s := filed.redirect 0 looped
    let t := filed.afterAll 0 [.redirect looped, .write [7, 8], .read 1]
    let u := t.redirect 0 astray
    filed.failure 0 looped = none ∧
    (∃ id, s.store.opened[s.stream .input]? = some (fresh .input id) ∧
      s.store.opened[s.stream .output]? = some (fresh .output id)) ∧
    t.store.files.get? 1 = some (.file redirectedMode [7, 8]) ∧
    (∃ unread, [7, 8] = s.readIn 0 [.write [7, 8], .read 1] ++ unread ∧
      ∀ count, (t.take count).1 = unread.take count) ∧
    t.failure 0 astray = some .output ∧
    u.streams = { t.streams with input := u.streams.input } ∧
    ∃ id offset, filed.Target 0 looped id .output ∧
      u.store.opened[u.stream .output]? = some { fresh .output id with offset } := by
  intro s t u
  obtain ⟨effect, last, -, -, both, shared⟩ := redirections_compose 0 filed
  have done : filed.failure 0 looped = none := by decide +kernel
  have output : filed.Opens 0 looped .output := opens_of_done done rfl
  have unopened : s.Unopened 0 .output [.write [7, 8], .read 1, .redirect astray] := by
    intro earlier r later steps opens
    obtain ⟨rfl, rfl⟩ : earlier = [.write [7, 8], .read 1] ∧ r = astray := by
      rcases earlier with _ | ⟨first, _ | ⟨second, _ | ⟨third, rest⟩⟩⟩ <;> simp_all
    cases astray_fails.symm.trans opens.2
  obtain ⟨-, regular⟩ := shared looped 1 redirectedMode [] output
    (by rw [filed_redirect]; rfl) (by rw [filed_redirect]; rfl) (by rw [filed_redirect]; rfl)
  obtain ⟨written, unread⟩ := regular [.write [7, 8], .read 1] (by simp)
  obtain ⟨id, offset, target, -, opened⟩ := last [] looped _ .output output unopened
  exact ⟨done, both looped "f" rfl rfl done, written, unread, astray_fails,
    ((effect [.redirect looped, .write [7, 8], .read 1] astray).inputOnly astray_fails).2,
    id, offset, target, opened⟩

end StreamState

end JobShell
