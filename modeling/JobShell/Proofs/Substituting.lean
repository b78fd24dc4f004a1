import JobShell.Proofs.Pairing
import JobShell.Proofs.Reading

/-!
The process id has no say in how a line is read. It is put into each word for itself, and no word
becomes an operator or a mark by it or stops being one; so the line is read as it stands, and then
the process id is put into the words of the command.
-/

namespace JobShell

variable {pid text : List Char}

/-! Word by word. -/

private theorem head?_ne_dollar (blank : ∀ c ∈ text.head?, Text.isBlank c = true) :
    text.head? ≠ some '$' := fun h => ne_dollar_of_isBlank (blank '$' h) rfl

private theorem expandDollars_append_apart (blank : ∀ c ∈ text.head?, Text.isBlank c = true)
    (front : List Char) :
    expandDollars pid (front ++ text) = expandDollars pid front ++ expandDollars pid text :=
  expandDollars_append fun torn => head?_ne_dollar blank torn.2

private theorem solid_expandDollars (hpid : ∀ c ∈ pid, Text.isBlank c = false)
    (solid : ∀ c ∈ text, Text.isBlank c = false) :
    ∀ c ∈ expandDollars pid text, Text.isBlank c = false := by
  fun_induction expandDollars pid text with
  | case1 => exact solid
  | case2 rest ih =>
    intro c hc
    rcases List.mem_append.mp hc with hc | hc
    · exact hpid c hc
    · exact ih (fun d hd => solid d (List.mem_cons_of_mem _ (List.mem_cons_of_mem _ hd))) c hc
  | case3 d rest _ ih =>
    obtain ⟨hd, hrest⟩ := List.forall_mem_cons.mp solid
    exact List.forall_mem_cons.mpr ⟨hd, ih hrest⟩

/-- The words of an expanded text are the words of the text, each expanded for itself. -/
theorem Text.Splits.expandDollars {words : List (List Char)} (hpid : pid ≠ [])
    (solid : ∀ c ∈ pid, isBlank c = false) (h : Splits isBlank text words) :
    Splits isBlank (expandDollars pid text) (words.map (JobShell.expandDollars pid)) := by
  have still {gap : List Char} (separates : ∀ c ∈ gap, isBlank c = true) :
      JobShell.expandDollars pid gap = gap :=
    expandDollars_eq_self (not_hasDollars_of_notMem fun hm =>
      ne_dollar_of_isBlank (separates _ hm) rfl)
  induction h with
  | gap separates =>
    rw [still separates]
    exact .gap separates
  | @word gap word rest words separates nonempty wordSolid apart tail ih =>
    have hlast : gap.getLast? ≠ some '$' := fun h =>
      ne_dollar_of_isBlank (separates '$' (List.mem_of_getLast? h)) rfl
    have parts : JobShell.expandDollars pid (gap ++ word ++ rest) =
        gap ++ JobShell.expandDollars pid word ++ JobShell.expandDollars pid rest := by
      rw [expandDollars_append_apart apart, expandDollars_append_of_getLast? hlast, still separates]
    rw [parts, List.map_cons]
    refine .word gap separates (expandDollars_ne_nil hpid nonempty)
      (solid_expandDollars solid wordSolid) ?_ ih
    rw [head?_expandDollars (head?_ne_dollar apart)]
    exact apart

private theorem wordsOf_expandPid (p : UInt32) (line : String) :
    wordsOf (expandPid p line) = (wordsOf line).map (expandPid p) := by
  have splits : Text.Splits Text.isBlank line.toList (Text.words line.toList) :=
    Text.splits_iff_runs_eq.mpr rfl
  have expanded := splits.expandDollars (digits_ne_nil p) (isBlank_of_mem_digits p)
  rw [wordsOf, toList_expandPid, Text.words, Text.splits_iff_runs_eq.mp expanded, wordsOf,
    List.map_map, List.map_map]
  refine List.map_congr_left fun word _ => ?_
  rw [Function.comp_apply, Function.comp_apply, expandPid, String.toList_ofList]

/-! What a word is. -/

private theorem eq_of_expandDollars_eq {mark : List Char} (hpid : pid ≠ [])
    (foreign : ∀ c ∈ mark, c ∉ pid) (h : expandDollars pid text = mark) : text = mark := by
  fun_induction expandDollars pid text generalizing mark with
  | case1 => exact h
  | case2 rest =>
    obtain ⟨c, hc⟩ := List.exists_mem_of_ne_nil pid hpid
    exact absurd hc (foreign c (h ▸ List.mem_append_left _ hc))
  | case3 c rest _ ih =>
    subst h
    exact congrArg (c :: ·) (ih (fun d hd => foreign d (List.mem_cons_of_mem _ hd)) rfl)

private theorem expandPid_eq_iff {mark : String}
    (own : (mark.toList.all fun c => !c.isDigit && c != '$') = true) (p : UInt32) (word : String) :
    expandPid p word = mark ↔ word = mark := by
  have own : ∀ c ∈ mark.toList, c.isDigit = false ∧ c ≠ '$' := by simpa using own
  constructor
  · intro h
    rw [← String.toList_inj, toList_expandPid] at h
    refine String.toList_inj.mp (eq_of_expandDollars_eq (digits_ne_nil p) (fun c hc hm => ?_) h)
    exact absurd (isDigit_of_mem_toString hm) (by simp [(own c hc).1])
  · rintro rfl
    exact expandPid_eq_self p (not_hasDollars_of_notMem fun hm => (own _ hm).2 rfl)

private theorem expandPid_operator (p : UInt32) (word : String) (direction : Direction) :
    expandPid p word = direction.operator.toString ↔ word = direction.operator.toString := by
  refine expandPid_eq_iff ?_ p word
  cases direction <;> decide

private theorem expandPid_mark (p : UInt32) (word : String) :
    expandPid p word = "&" ↔ word = "&" :=
  expandPid_eq_iff (by decide) p word

private theorem ofWord?_expandPid (p : UInt32) (word : String) :
    Direction.ofWord? (expandPid p word) = Direction.ofWord? word :=
  Option.ext fun direction => by
    rw [Direction.ofWord?_eq_some, Direction.ofWord?_eq_some, expandPid_operator]

private theorem expandPid_last_mark (p : UInt32) (word : String) (rest : List String) :
    (expandPid p word = "&" ∧ rest.map (expandPid p) = []) ↔ word = "&" ∧ rest = [] := by
  rw [expandPid_mark, List.map_eq_nil_iff]

/-! What the words stand for. -/

def Piece.expand (p : UInt32) : Piece → Piece
  | argument word => argument (expandPid p word)
  | redirection direction target => redirection direction (expandPid p target)
  | dangling direction => dangling direction
  | background => background

/-- An expanded word stands for the same as the word. -/
theorem Reads.expand {ws : List String} {pieces : List Piece} (h : Reads ws pieces) (p : UInt32) :
    Reads (ws.map (expandPid p)) (pieces.map (Piece.expand p)) := by
  induction h with
  | nil => exact .nil
  | redirection operator tail ih =>
    exact .redirection ((expandPid_operator p _ _).mpr operator) ih
  | dangling operator => exact .dangling ((expandPid_operator p _ _).mpr operator)
  | background mark => exact .background ((expandPid_mark p _).mpr mark)
  | argument plain notMark tail ih =>
    have plain (direction : Direction) := mt (expandPid_operator p _ direction).mp (plain direction)
    exact .argument plain (mt (expandPid_last_mark p _ _).mp notMark) ih

namespace Command

def expand (p : UInt32) (command : Command) : Command :=
  { argv := command.argv.map (expandPid p)
    input := command.input.map (expandPid p)
    output := command.output.map (expandPid p)
    background := command.background
    text := expandPid p command.text }

/-- The commands have as many arguments as each other, redirect the same streams and both run in the
background or both do not. -/
structure SameForm (first second : Command) : Prop where
  arguments : first.argv.length = second.argv.length
  targets : ∀ direction, (first.target direction).isSome = (second.target direction).isSome
  background : first.background = second.background

private theorem expand_sameForm (p q : UInt32) (command : Command) :
    (command.expand p).SameForm (command.expand q) where
  arguments := by rw [expand, expand, List.length_map, List.length_map]
  targets direction := by cases direction <;> simp [expand, target]
  background := rfl

private theorem redirect_expand (p : UInt32) (command : Command) (direction : Direction)
    (path : String) : (command.expand p).redirect direction (expandPid p path) =
      (command.redirect direction path).expand p := by
  cases direction <;> rfl

/-- To read expanded words is to expand what is read, and what is wrong with the words stays wrong
with them. -/
theorem addWords_expand (p : UInt32) (command : Command) (ws : List String) :
    (command.expand p).addWords (ws.map (expandPid p)) = (command.addWords ws).map (expand p) := by
  have length_argv (command : Command) : (command.expand p).argv.length = command.argv.length := by
    rw [expand, List.length_map]
  fun_induction addWords command ws with
  | case1 command empty =>
    have empty : (command.expand p).argv.isEmpty = true := by simpa [expand] using empty
    rw [List.map_nil, addWords, if_pos empty]
    rfl
  | case2 command nonempty =>
    have nonempty : ¬ (command.expand p).argv.isEmpty = true := by simpa [expand] using nonempty
    rw [List.map_nil, addWords, if_neg nonempty]
    rfl
  | case3 command word direction operator =>
    rw [List.map_cons, List.map_nil, addWords, ofWord?_expandPid, operator]
    rfl
  | case4 command word direction operator target rest ih =>
    rw [List.map_cons, List.map_cons, addWords, ofWord?_expandPid, operator]
    simp only [redirect_expand]
    exact ih
  | case5 command word rest plain mark ih =>
    rw [List.map_cons, addWords, ofWord?_expandPid, plain]
    simp only [if_pos ((expandPid_last_mark p word rest).mpr mark)]
    exact ih
  | case6 command word rest plain notMark full =>
    rw [List.map_cons, addWords, ofWord?_expandPid, plain]
    simp only [if_neg (mt (expandPid_last_mark p word rest).mp notMark)]
    rw [if_pos ((length_argv command).trans full)]
    rfl
  | case7 command word rest plain notMark room ih =>
    have longer : { command.expand p with
        argv := (command.expand p).argv ++ [expandPid p word] } =
          expand p { command with argv := command.argv ++ [word] } := by
      simp [expand]
    rw [List.map_cons, addWords, ofWord?_expandPid, plain]
    simp only [if_neg (mt (expandPid_last_mark p word rest).mp notMark)]
    rw [if_neg ((length_argv command).symm ▸ room), longer]
    exact ih

end Command

/-- What a line comes to as it stands, with nothing put in for dollar signs. -/
def parseVerbatim (line : String) : Except ParseError (Option Command) :=
  if isSkipped line.toList then .ok none
  else if maxLineBytes < line.utf8ByteSize then .error .lineTooLong
  else
    (Command.addWords {} (wordsOf line)).map fun command => some
      { command with text := String.ofList (Text.trimEnd line.toList) }

/-- The line is read as it stands, and the process id is put into the command. -/
theorem parse_eq_expand (line : String) (p : UInt32) :
    parse line p = (parseVerbatim line).map (Option.map (Command.expand p)) := by
  have nothing : (Command.expand p {} : Command) = {} := by
    have noText : expandPid p "" = "" := expandPid_eq_self p (not_hasDollars_of_notMem (by decide))
    simp [Command.expand, noText]
  have trimmed : wordsOf (String.ofList (Text.trimEnd line.toList)) = wordsOf line := by
    rw [wordsOf, String.toList_ofList, Text.words_trimEnd, wordsOf]
  have read := Command.addWords_expand p {} (wordsOf line)
  rw [nothing] at read
  unfold parse parseVerbatim
  split
  · rfl
  · split
    · rfl
    · simp only [wordsOf_expandPid, trimmed, read]
      cases Command.addWords {} (wordsOf line) <;> rfl

/-- Two readings of a line: it asks for nothing, or is refused for the same reason, or for commands
of the same form. -/
inductive SameReading :
    Except ParseError (Option Command) → Except ParseError (Option Command) → Prop
  | skipped : SameReading (.ok none) (.ok none)
  | refused (error : ParseError) : SameReading (.error error) (.error error)
  | command {first second : Command} (same : first.SameForm second) :
      SameReading (.ok (some first)) (.ok (some second))

private theorem sameReading_expand (p q : UInt32) (read : Except ParseError (Option Command)) :
    SameReading (read.map (Option.map (Command.expand p)))
      (read.map (Option.map (Command.expand q))) := by
  cases read with
  | error error => exact .refused error
  | ok read =>
    cases read with
    | none => exact .skipped
    | some command => exact .command (command.expand_sameForm p q)

/-- Two shells read a line alike, whatever their process ids are. The words of the expanded line are
the words of the line, each expanded for itself; a word comes to an operator or to the mark only if
it is one; so the words stand for the same, and the command is the one on the line as it stands with
the process id put into each argument and target at its place. -/
theorem parse_independent_of_pid (line : String) :
    (∀ p q, SameReading (parse line p) (parse line q)) ∧
    (∀ p, wordsOf (expandPid p line) = (wordsOf line).map (expandPid p)) ∧
    (∀ p word, (expandPid p word = "<" ↔ word = "<") ∧ (expandPid p word = ">" ↔ word = ">") ∧
      (expandPid p word = "&" ↔ word = "&")) ∧
    (∃ pieces, Reads (wordsOf line) pieces ∧
      ∀ p, Reads (wordsOf (expandPid p line)) (pieces.map (Piece.expand p))) ∧
    ∀ p, parse line p = (parseVerbatim line).map (Option.map (Command.expand p)) := by
  refine ⟨fun p q => ?_, fun p => wordsOf_expandPid p line, fun p word => ?_, ?_,
    parse_eq_expand line⟩
  · rw [parse_eq_expand line p, parse_eq_expand line q]
    exact sameReading_expand p q _
  · exact ⟨expandPid_operator p word .input, expandPid_operator p word .output,
      expandPid_mark p word⟩
  · obtain ⟨pieces, reads⟩ := exists_reads (wordsOf line)
    refine ⟨pieces, reads, fun p => ?_⟩
    rw [wordsOf_expandPid]
    exact reads.expand p

end JobShell
