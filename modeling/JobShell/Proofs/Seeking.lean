import JobShell.Proofs.Veiling

/-!
Stores that differ in how far one open file was read. Nothing that a child does before its program
runs depends on that, and nothing that is written to another open file does.
-/

namespace JobShell

/-- Hides nothing, but where one open file goes on. -/
def Veil.placing (handle : Handle) (offset : Nat) : Veil where
  hides _ := false
  place other file := if handle = other then offset else file.offset

private theorem FileSystem.veil_nothing (fs : FileSystem) : fs.veil (fun _ => false) = fs := by
  unfold FileSystem.veil
  congr 1
  apply Array.ext_getElem?
  simp

namespace Store

def seek (store : Store) (handle : Handle) (offset : Nat) : Store :=
  { store with opened := store.opened.modify handle fun file => { file with offset } }

/-- Stores that differ at most in the place where the open file goes on. -/
def Reread (handle : Handle) (offset : Nat) (store other : Store) : Prop :=
  handle < store.opened.size ∧ other = store.seek handle offset

variable {store : Store} {handle other : Handle} {offset : Nat}

@[simp] theorem files_seek : (store.seek handle offset).files = store.files := rfl

theorem opened_seek (handle : Handle) (offset : Nat) (other : Handle) :
    (store.seek handle offset).opened[other]? =
      if handle = other then store.opened[other]?.map fun file => { file with offset }
      else store.opened[other]? := by
  simp [seek, Array.getElem?_modify]

@[simp] theorem seek_seek (offset' : Nat) :
    (store.seek handle offset).seek handle offset' = store.seek handle offset' := by
  unfold seek
  congr 1
  apply Array.ext_getElem?
  intro i
  simp only [Array.getElem?_modify]
  split
  · cases store.opened[i]? <;> rfl
  · rfl

private theorem veil_placing : store.veil (.placing handle offset) = store.seek handle offset := by
  unfold veil
  congr 1
  · exact store.files.veil_nothing
  · apply Array.ext_getElem?
    intro i
    rw [Array.getElem?_mapIdx, Array.getElem?_modify]
    by_cases here : handle = i
    · simp [Veil.placing, here]
    · cases store.opened[i]? <;> simp [Veil.placing, here]

private theorem placing_fits (inside : handle < store.opened.size) :
    (Veil.placing handle offset).Fits store.opened.size := by
  intro other new file start
  have apart : handle ≠ other := Nat.ne_of_lt (Nat.lt_of_lt_of_le inside new)
  simp [Veil.placing, apart, start]

/-- What is written to another open file. -/
theorem writeText_seek (text : String) (apart : handle ≠ other) :
    (store.seek handle offset).writeText other text =
      (store.writeText other text).seek handle offset := by
  have shown (file : OpenFile) (_ : file ∈ store.opened[other]?) :
      (Veil.placing handle offset).hides file.node = false ∧
        ∀ offset', (Veil.placing handle offset).place other { file with offset := offset' } =
          offset' :=
    ⟨rfl, fun _ => if_neg apart⟩
  rw [← veil_placing, ← veil_placing]
  exact tryWrite_veil shown _

private theorem size_write {bytes : Bytes} {later : Store}
    (h : store.write other bytes = .ok later) : later.opened.size = store.opened.size := by
  unfold write at h
  split at h
  · cases h
  · split at h
    · cases h
    · split at h
      · split at h
        · obtain rfl := Except.ok.inj h
          rfl
        · cases h
      · obtain rfl := Except.ok.inj h
        rfl
      · obtain rfl := Except.ok.inj h
        simp

@[simp] theorem size_writeText (text : String) :
    (store.writeText other text).opened.size = store.opened.size := by
  unfold writeText tryWrite
  split
  · next h => exact size_write h
  · rfl

end Store

private theorem Redirections.apply_size (r : Redirections) (cwd : NodeId) (streams : Streams)
    (store : Store) :
    store.opened.size ≤ (r.apply cwd streams store).store.opened.size ∧
    ((r.apply cwd streams store).streams.output = streams.output ∨
      store.opened.size ≤ (r.apply cwd streams store).streams.output) := by
  have input {between : StreamState}
      (h : StreamState.TakesInput cwd ⟨streams, store⟩ r between) :
      store.opened.size ≤ between.store.opened.size ∧
        between.streams.output = streams.output := by
    cases h <;> simp
  have calls := StreamState.redirect_calls cwd ⟨streams, store⟩ r
  change _ ≤ (StreamState.redirect cwd ⟨streams, store⟩ r).store.opened.size ∧
    ((StreamState.redirect cwd ⟨streams, store⟩ r).streams.output = streams.output ∨
      _ ≤ (StreamState.redirect cwd ⟨streams, store⟩ r).streams.output)
  generalize StreamState.failure cwd _ r = failed,
    StreamState.redirect cwd ⟨streams, store⟩ r = redirected at calls ⊢
  cases calls with
  | unreadable => exact ⟨Nat.le_refl _, .inl rfl⟩
  | unwritable taken => exact ⟨(input taken).1, .inl (input taken).2⟩
  | done taken output =>
    obtain ⟨larger, same⟩ := input taken
    cases output with
    | inherited => exact ⟨larger, .inl same⟩
    | opened => exact ⟨Nat.le_trans larger (by simp), .inr larger⟩

namespace Departure
variable (programs : Programs) {s : Session} (command : Command) (background : Bool)
  {handle : Handle}

/-- A child sets out in the same way, wherever an open file goes on that the shell does not write
to. -/
theorem make_seek (ahead : Bytes) (offset : Nat) (inside : handle < s.machine.store.opened.size)
    (apart : handle ≠ s.machine.streams.output) :
    make programs { s with ahead, machine.store := s.machine.store.seek handle offset } command
        background =
      { make programs s command background with
        store := (make programs s command background).store.seek handle offset } := by
  have fits : (Veil.placing handle offset).Fits s.machine.store.opened.size :=
    Store.placing_fits inside
  let t := { s with ahead, machine.store := s.machine.store.seek handle offset }
  have hands : s.HandsOn t := ⟨rfl, rfl, rfl, rfl, rfl, rfl, rfl⟩
  have same : t.machine.store.veil (.placing handle offset) =
      s.machine.store.veil (.placing handle offset) := by
    simp [t, Store.veil_placing]
  obtain ⟨r, r', told, stores, outputs, store, makes⟩ :=
    make_veil programs command background hands same fits nofun
  dsimp only [t] at stores outputs store makes
  rw [← Store.veil_placing, Redirections.apply_veil _ _ _ fits] at stores makes
  simp only [Store.veil_placing, Store.seek_seek] at stores makes
  rw [makes, store, stores]
  cases told with
  | none => rfl
  | some message =>
    have elsewhere : handle ≠ message.1 := by
      obtain same | new := outputs message rfl
      · rwa [same]
      · obtain same | later := (r.apply_size s.machine.cwd s.machine.streams s.machine.store).2
        · rwa [new, same]
        · exact new ▸ Nat.ne_of_lt (Nat.lt_of_lt_of_le inside later)
    exact congrArg (fun store => { make programs s command background with store })
      (Store.writeText_seek message.2 elsewhere)

/-- No open file is closed. -/
theorem make_size : s.machine.store.opened.size ≤
    (make programs s command background).store.opened.size := by
  obtain ⟨r, told, store⟩ := make_store programs s command background
  have size := (r.apply_size s.machine.cwd s.machine.streams s.machine.store).1
  rw [store]
  cases told with
  | none => exact size
  | some message => simpa only [Store.telling, Store.size_writeText] using size

end Departure

end JobShell
