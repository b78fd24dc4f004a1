import JobShell.Proofs.Leaving
import JobShell.Proofs.Seeking

/-!
Lines fed through standard input. A line without control characters of the editor is read as it was
written, and to take a line from the input is to split off the first line of what is still to come,
however it is spread over what was read ahead and what was not.
-/

namespace JobShell

namespace Text

/-- The line is read as it stands: nothing in it ends a line or takes a character back. -/
structure Typable (line : String) : Prop where
  noFeed : '\n' ∉ line.toList
  noBackspace : '\x08' ∉ line.toList
  noReturn : line.toList.getLast? ≠ some '\r'

def typed (line : String) : Bytes :=
  utf8 line ++ [lineFeed]

/-- Every line has at least its line feed. -/
theorem length_le_typed (lines : List String) : lines.length ≤ (lines.flatMap typed).length := by
  induction lines with
  | nil => exact Nat.le_refl _
  | cons line rest ih =>
    have feed : 1 ≤ (typed line).length := by simp [typed]
    simp only [List.flatMap_cons, List.length_append, List.length_cons]
    omega

private theorem utf8_eq (text : String) :
    utf8 text = text.toList.flatMap String.utf8EncodeChar := by
  rw [utf8, String.toUTF8, ← String.utf8Encode_toList, List.utf8Encode, List.toList_data_toByteArray]

private theorem decode?_utf8 (text : String) : decode? (utf8 text) = some text := by
  have bytes : (⟨(utf8 text).toArray⟩ : ByteArray) = text.toByteArray := by
    rw [utf8, Array.toArray_toList]
    rfl
  rw [decode?, bytes, String.fromUTF8?, dif_pos text.isValidUTF8]
  rfl

private theorem eq_of_mem_utf8EncodeChar {c : Char} {b : UInt8} (small : b.toNat < 128)
    (h : b ∈ String.utf8EncodeChar c) : c.toNat = b.toNat := by
  have code : c.toNat = c.val.toNat := rfl
  have large (n : Nat) (high : 128 ≤ n) (low : n < 256) : b ≠ UInt8.ofNat n := by
    rintro rfl
    rw [UInt8.toNat_ofNat_of_lt' low] at small
    omega
  unfold String.utf8EncodeChar at h
  simp only at h
  split at h
  · next ascii =>
    obtain rfl := List.mem_singleton.mp h
    exact code.trans (UInt8.toNat_ofNat_of_lt' (Nat.lt_of_le_of_lt ascii (by decide))).symm
  · exfalso
    split at h
    · simp only [List.mem_cons, List.not_mem_nil, or_false] at h
      rcases h with h | h <;> exact large _ (by omega) (by omega) h
    · split at h
      · simp only [List.mem_cons, List.not_mem_nil, or_false] at h
        rcases h with h | h | h <;> exact large _ (by omega) (by omega) h
      · simp only [List.mem_cons, List.not_mem_nil, or_false] at h
        rcases h with h | h | h | h <;> exact large _ (by omega) (by omega) h

private theorem lineFeed_notMem_utf8 {line : String} (noFeed : '\n' ∉ line.toList) :
    lineFeed ∉ utf8 line := by
  rw [utf8_eq, List.mem_flatMap]
  rintro ⟨c, hc, hb⟩
  have code := eq_of_mem_utf8EncodeChar (by decide) hb
  exact noFeed (Char.toNat_inj.mp (code.trans (show lineFeed.toNat = '\n'.toNat from rfl)) ▸ hc)

private theorem getLast?_utf8_ne {line : String} (noReturn : line.toList.getLast? ≠ some '\r') :
    (utf8 line).getLast? ≠ some carriageReturn := by
  rw [utf8_eq]
  rcases List.eq_nil_or_concat line.toList with none | ⟨front, c, chars⟩
  · simp [none]
  · rw [chars, List.concat_eq_append, List.flatMap_append, List.flatMap_singleton,
      List.getLast?_append_of_ne_nil _ String.utf8EncodeChar_ne_nil]
    intro last
    have code := eq_of_mem_utf8EncodeChar (by decide) (List.mem_of_getLast? last)
    refine noReturn ?_
    rw [chars, Char.toNat_inj.mp (code.trans (show carriageReturn.toNat = '\r'.toNat from rfl))]
    simp

/-- A typable line is read as it was written. -/
theorem Typable.readTyped {line : String} (h : Typable line) :
    readTyped (typed line) = .line line := by
  have trims : trimLineEnd (typed line) = utf8 line := by
    simp [trimLineEnd, typed, getLast?_utf8_ne h.noReturn]
  rw [Text.readTyped, trims, decode?_utf8]
  simp only [applyBackspaces_of_not_mem h.noBackspace]

private theorem splitLine_of_notMem {bytes : Bytes} (rest : Bytes) (h : lineFeed ∉ bytes) :
    splitLine (bytes ++ rest) = (bytes ++ (splitLine rest).1, (splitLine rest).2) := by
  induction bytes with
  | nil => rfl
  | cons b bytes ih =>
    obtain ⟨other, h⟩ := List.ne_and_not_mem_of_not_mem_cons h
    simp only [List.cons_append, splitLine, Ne.symm other, if_false, ih h]

private theorem splitLine_lineFeed {bytes : Bytes} (rest : Bytes) (h : lineFeed ∉ bytes) :
    splitLine (bytes ++ lineFeed :: rest) = (bytes ++ [lineFeed], rest) := by
  rw [splitLine_of_notMem _ h]
  rfl

theorem splitLine_typed {line : String} (typable : Typable line) (rest : Bytes) :
    splitLine (typed line ++ rest) = (typed line, rest) := by
  rw [typed, List.append_assoc]
  exact splitLine_lineFeed rest (lineFeed_notMem_utf8 typable.noFeed)

end Text

namespace Store
variable {store : Store} {handle : Handle} {file : OpenFile}

private theorem setIfInBounds_eq_seek (opened : store.opened[handle]? = some file) (offset : Nat) :
    { store with opened := store.opened.setIfInBounds handle { file with offset } } =
      store.seek handle offset := by
  unfold seek
  congr 1
  apply Array.ext_getElem?
  intro i
  rw [Array.getElem?_setIfInBounds, Array.getElem?_modify]
  split
  · next here =>
    obtain ⟨inside, -⟩ := Array.getElem?_eq_some_iff.mp opened
    rw [← here, if_pos inside, opened]
    rfl
  · rfl

theorem seek_self (opened : store.opened[handle]? = some file) :
    store.seek handle file.offset = store := by
  unfold seek
  congr 1
  apply Array.ext_getElem?
  intro i
  rw [Array.getElem?_modify]
  split
  · next here =>
    rw [← here, opened]
    rfl
  · rfl

/-- To read a regular file is to go on in it: what is read and what is not read yet is what was not
read before. -/
theorem read_regular {mode : Nat} {content : Bytes} (opened : store.opened[handle]? = some file)
    (reads : file.reads = true) (regular : store.files.get? file.node = some (.file mode content))
    (count : Nat) :
    ∃ chunk, store.read handle count = .ok (chunk, store.seek handle (file.offset + chunk.length)) ∧
      chunk.length = min count (content.drop file.offset).length ∧
      content.drop file.offset = chunk ++ content.drop (file.offset + chunk.length) := by
  refine ⟨(content.drop file.offset).take count, ?_, List.length_take, ?_⟩
  · rw [read, opened]
    simp only [reads, Bool.not_true, Bool.false_eq_true, if_false, peek, regular]
    exact congrArg (fun later => Except.ok (_, later)) (reads ▸ setIfInBounds_eq_seek opened _)
  · rw [← List.drop_drop, List.length_take]
    conv_rhs => rw [List.take_eq_take_min]
    exact (List.take_append_drop _ _).symm

end Store

namespace Session
variable {programs : Programs} {s t : Session} {content : Bytes} {file : OpenFile}

/-- Standard input is open for reading, on a regular file with this content. -/
structure Offers (content : Bytes) (file : OpenFile) (s : Session) : Prop where
  opened : s.machine.store.opened[s.machine.streams.input]? = some file
  reads : file.reads = true
  regular : ∃ mode, s.machine.store.files.get? file.node = some (.file mode content)

/-- The same session, as it is further on in its input. -/
def readOn (s : Session) (ahead : Bytes) (offset : Nat) : Session :=
  { s with ahead, machine.store := s.machine.store.seek s.machine.streams.input offset }

@[simp] theorem readOn_readOn (ahead ahead' : Bytes) (offset offset' : Nat) :
    (s.readOn ahead offset).readOn ahead' offset' = s.readOn ahead' offset' := by
  simp [readOn]

theorem Offers.readOn (h : s.Offers content file) (ahead : Bytes) (offset : Nat) :
    (s.readOn ahead offset).Offers content { file with offset } where
  opened := by
    simp only [Session.readOn, Store.opened_seek, if_true, h.opened]
    rfl
  reads := h.reads
  regular := h.regular

def stepsFor (ahead : Bytes) (unread : Nat) : Nat :=
  (if ahead = [] then 0 else 1) + if unread = 0 then 1 else unread + 2

private theorem stepsFor_pos (ahead : Bytes) (unread : Nat) : 0 < stepsFor ahead unread := by
  unfold stepsFor
  split_ifs <;> omega

private theorem stepsFor_chunk {chunk : Bytes} {left unread : Nat} (some : chunk ≠ [])
    (size : chunk.length = min chunkBytes unread) (rest : unread = chunk.length + left) :
    stepsFor chunk left + 1 ≤ stepsFor [] unread := by
  have length := List.length_pos_of_ne_nil some
  unfold chunkBytes at size
  unfold stepsFor
  split_ifs <;> omega

private theorem takeLine_read {fuel : Nat} {sofar chunk : Bytes} {store : Store}
    (none : s.ahead = [])
    (reads : s.machine.store.read s.machine.streams.input chunkBytes = .ok (chunk, store)) :
    (takeLine (fuel + 1) sofar).run s =
      if chunk = [] then .ok (some sofar) { s with ahead := chunk, machine.store := store }
      else (takeLine fuel sofar).run { s with ahead := chunk, machine.store := store } := by
  rw [takeLine, run_get_bind, if_pos none, reads]
  simp only [EStateM.run_bind, EStateM.run_set]
  split <;> rfl

private theorem takeLine_split {fuel : Nat} {sofar first rest : Bytes} (more : s.ahead ≠ [])
    (splits : Text.splitLine s.ahead = (first, rest)) :
    (takeLine (fuel + 1) sofar).run s =
      if first.getLast? = some Text.lineFeed then .ok (some (sofar ++ first)) { s with ahead := rest }
      else (takeLine fuel (sofar ++ first)).run { s with ahead := rest } := by
  rw [takeLine, run_get_bind, if_neg more, splits]
  simp only [EStateM.run_bind, EStateM.run_set]
  split <;> rfl

/-- To take a line is to split off the first line of what is still to come. -/
theorem takeLine_run (fuel : Nat) (sofar : Bytes) (h : s.Offers content file)
    (enough : stepsFor s.ahead (content.drop file.offset).length ≤ fuel) :
    ∃ ahead offset, (takeLine fuel sofar).run s =
        .ok (some (sofar ++ (Text.splitLine (s.ahead ++ content.drop file.offset)).1))
          (s.readOn ahead offset) ∧
      ahead ++ content.drop offset = (Text.splitLine (s.ahead ++ content.drop file.offset)).2 := by
  induction fuel generalizing s sofar file with
  | zero => exact absurd enough (Nat.not_le.mpr (stepsFor_pos _ _))
  | succ fuel ih =>
    by_cases none : s.ahead = []
    · obtain ⟨mode, regular⟩ := h.regular
      obtain ⟨chunk, reads, size, rest⟩ := Store.read_regular h.opened h.reads regular chunkBytes
      rw [takeLine_read none reads, none, List.nil_append]
      by_cases last : chunk = []
      · have unread : content.drop file.offset = [] := by
          rw [last, List.length_nil] at size
          rw [← List.length_eq_zero_iff]
          unfold chunkBytes at size
          omega
        rw [if_pos last, unread]
        refine ⟨chunk, file.offset + chunk.length, ?_, ?_⟩
        · rw [Text.splitLine, List.append_nil, readOn]
        · exact rest.symm.trans unread
      · have length : (content.drop file.offset).length =
            chunk.length + (content.drop (file.offset + chunk.length)).length := by
          rw [← List.length_append, ← rest]
        rw [none] at enough
        obtain ⟨ahead, offset, runs, left⟩ :=
          ih sofar (h.readOn chunk (file.offset + chunk.length))
            (Nat.le_of_succ_le_succ (Nat.le_trans (stepsFor_chunk last size length) enough))
        rw [readOn_readOn] at runs
        rw [if_neg last, rest]
        exact ⟨ahead, offset, runs, left⟩
    · have here (bytes : Bytes) :
          ({ s with ahead := bytes } : Session) = s.readOn bytes file.offset := by
        rw [readOn, Store.seek_self h.opened]
      by_cases ends : Text.lineFeed ∈ s.ahead
      · obtain ⟨front, back, parts, notMem⟩ := List.eq_append_cons_of_mem ends
        have splits := Text.splitLine_lineFeed back notMem
        rw [← parts] at splits
        rw [takeLine_split none splits, if_pos (by simp), here, parts, List.append_assoc,
          List.cons_append, Text.splitLine_lineFeed _ notMem]
        exact ⟨back, file.offset, rfl, rfl⟩
      · have splits : Text.splitLine s.ahead = (s.ahead, []) := by
          simpa [Text.splitLine] using Text.splitLine_of_notMem [] ends
        have goesOn : ¬ s.ahead.getLast? = some Text.lineFeed :=
          fun last => ends (List.mem_of_getLast? last)
        have less : stepsFor [] (content.drop file.offset).length ≤ fuel := by
          simp only [stepsFor, none, if_true, if_false] at enough ⊢
          omega
        obtain ⟨ahead, offset, runs, left⟩ :=
          ih (sofar ++ s.ahead) (h.readOn [] file.offset) less
        rw [readOn_readOn, List.append_assoc] at runs
        rw [takeLine_split none splits, if_neg goesOn, here, Text.splitLine_of_notMem _ ends]
        exact ⟨ahead, offset, runs, left⟩

end Session

end JobShell
