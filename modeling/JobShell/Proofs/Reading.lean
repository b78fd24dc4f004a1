import JobShell.Command.Parser
import JobShell.Proofs.Expanding

/-!
The grammar of command lines. The words of a line are read from left to right as pieces, in one way
only; what the pieces are, and how many, decides what the line comes to. The parser, which reads and
decides at once, comes to the same.
-/

namespace JobShell

/-- What one or two words of a line stand for. -/
inductive Piece where
  | argument (word : String)
  | redirection (direction : Direction) (target : String)
  /-- An operator without a word after it. -/
  | dangling (direction : Direction)
  | background
  deriving DecidableEq, Repr

namespace Piece

def words : Piece → List String
  | argument word => [word]
  | redirection direction target => [direction.operator.toString, target]
  | dangling direction => [direction.operator.toString]
  | background => ["&"]

def argument? : Piece → Option String
  | argument word => some word
  | _ => none

def target? (direction : Direction) : Piece → Option String
  | redirection other target => if other = direction then some target else none
  | _ => none

def dangling? : Piece → Option Direction
  | dangling direction => some direction
  | _ => none

end Piece

/-- The words, from left to right, stand for these pieces. An operator takes the next word as its
target, whatever that is; the very last word is the background mark if it is `&` and no target;
every other word is an argument. -/
inductive Reads : List String → List Piece → Prop
  | nil : Reads [] []
  | redirection {direction : Direction} {word target : String} {rest : List String}
      {pieces : List Piece} (operator : word = direction.operator.toString)
      (tail : Reads rest pieces) :
      Reads (word :: target :: rest) (.redirection direction target :: pieces)
  | dangling {direction : Direction} {word : String}
      (operator : word = direction.operator.toString) : Reads [word] [.dangling direction]
  | background {word : String} (mark : word = "&") : Reads [word] [.background]
  | argument {word : String} {rest : List String} {pieces : List Piece}
      (plain : ∀ direction : Direction, word ≠ direction.operator.toString)
      (notMark : ¬ (word = "&" ∧ rest = [])) (tail : Reads rest pieces) :
      Reads (word :: rest) (.argument word :: pieces)

def arguments (pieces : List Piece) : List String :=
  pieces.filterMap Piece.argument?

def lastTarget? (direction : Direction) (pieces : List Piece) : Option String :=
  (pieces.filterMap (Piece.target? direction)).getLast?

/-- The direction of the operator at the end, if the last piece is one without a target. -/
def danglingEnd? (pieces : List Piece) : Option Direction :=
  pieces.getLast?.bind Piece.dangling?

variable {ws : List String} {pieces other : List Piece} {piece : Piece}

private theorem ofWord?_eq_none {word : String}
    (plain : ∀ direction : Direction, word ≠ direction.operator.toString) :
    Direction.ofWord? word = none := by
  cases h : Direction.ofWord? word with
  | none => rfl
  | some direction => exact absurd (Direction.ofWord?_eq_some.mp h) (plain direction)

private theorem mark_plain (direction : Direction) : "&" ≠ direction.operator.toString := by
  cases direction <;> decide

/-- Every list of words can be read. -/
theorem exists_reads : ∀ ws : List String, ∃ pieces, Reads ws pieces
  | [] => ⟨[], .nil⟩
  | word :: rest => by
    cases h : Direction.ofWord? word with
    | some direction =>
      have operator := Direction.ofWord?_eq_some.mp h
      cases rest with
      | nil => exact ⟨_, .dangling operator⟩
      | cons target rest =>
        obtain ⟨pieces, reads⟩ := exists_reads rest
        exact ⟨_, .redirection operator reads⟩
    | none =>
      by_cases mark : word = "&" ∧ rest = []
      · obtain ⟨rfl, rfl⟩ := mark
        exact ⟨_, .background rfl⟩
      · obtain ⟨pieces, reads⟩ := exists_reads rest
        refine ⟨_, .argument (fun direction hd => ?_) mark reads⟩
        simp [Direction.ofWord?_eq_some.mpr hd] at h

/-- Words can be read in one way only. -/
theorem Reads.unique (h : Reads ws pieces) (h' : Reads ws other) : pieces = other := by
  have injective {first second : Direction} {word : String}
      (hf : word = first.operator.toString) (hs : word = second.operator.toString) :
      first = second :=
    Option.some.inj ((Direction.ofWord?_eq_some.mpr hf).symm.trans
      (Direction.ofWord?_eq_some.mpr hs))
  have notMark {direction : Direction} {word : String} (mark : word = "&")
      (operator : word = direction.operator.toString) : False :=
    mark_plain direction (mark.symm.trans operator)
  induction h generalizing other with
  | nil =>
    cases h'
    rfl
  | redirection operator tail ih =>
    cases h' with
    | redirection operator' tail' => rw [injective operator operator', ih tail']
    | argument plain => exact absurd operator (plain _)
  | dangling operator =>
    cases h' with
    | dangling operator' => rw [injective operator operator']
    | background mark => exact (notMark mark operator).elim
    | argument plain => exact absurd operator (plain _)
  | background mark =>
    cases h' with
    | dangling operator => exact (notMark mark operator).elim
    | background => rfl
    | argument _ other => exact absurd ⟨mark, rfl⟩ other
  | argument plain other tail ih =>
    cases h' with
    | redirection operator => exact absurd operator (plain _)
    | dangling operator => exact absurd operator (plain _)
    | background mark => exact absurd ⟨mark, rfl⟩ other
    | argument _ _ tail' => rw [ih tail']

private theorem Reads.flatMap_words (h : Reads ws pieces) : pieces.flatMap Piece.words = ws := by
  induction h with
  | nil => rfl
  | redirection operator tail ih => rw [List.flatMap_cons, ih, operator]; rfl
  | dangling operator => rw [operator]; rfl
  | background mark => rw [mark]; rfl
  | argument plain notMark tail ih => rw [List.flatMap_cons, ih]; rfl

/-- What is read is in the words. -/
theorem Reads.mem_of_mem_words {word : String} (h : Reads ws pieces) (hm : piece ∈ pieces)
    (hw : word ∈ piece.words) : word ∈ ws :=
  h.flatMap_words ▸ List.mem_flatMap.mpr ⟨piece, hm, hw⟩

/-- No argument is an operator. -/
theorem Reads.plain {argument : String} (h : Reads ws pieces) (hm : .argument argument ∈ pieces)
    (direction : Direction) : argument ≠ direction.operator.toString := by
  induction h with
  | nil => cases hm
  | redirection operator tail ih => exact ih (by simpa using hm)
  | dangling => simp at hm
  | background => simp at hm
  | argument plain notMark tail ih =>
    rcases List.mem_cons.mp hm with he | hm
    · exact Piece.argument.inj he ▸ plain direction
    · exact ih hm

/-- The last piece is no argument `&`: that would be the background mark. -/
theorem Reads.notMark (h : Reads ws pieces) : pieces.getLast? ≠ some (.argument "&") := by
  have later {piece : Piece} {pieces : List Piece} (hp : piece ≠ .argument "&")
      (h : pieces.getLast? ≠ some (.argument "&")) :
      (piece :: pieces).getLast? ≠ some (.argument "&") := by
    rw [List.getLast?_cons]
    cases hl : pieces.getLast? with
    | none => simpa using hp
    | some last => simpa [hl] using h
  induction h with
  | nil => simp
  | redirection operator tail ih => exact later (by simp) ih
  | dangling => simp
  | background => simp
  | @argument word rest pieces plain notMark tail ih =>
    cases pieces with
    | nil =>
      have hrest : rest = [] := tail.flatMap_words.symm
      simpa using fun hword => notMark ⟨hword, hrest⟩
    | cons next pieces => rwa [List.getLast?_cons_cons]

private theorem words_ne_nil (piece : Piece) : piece.words ≠ [] := by
  cases piece <;> simp [Piece.words]

/-- Pieces can be read off the words that they are made of if no argument is an operator, nothing
comes after an operator without a target or the background mark, and the last piece is no argument
`&`. -/
theorem reads_flatMap_words
    (plain : ∀ word, .argument word ∈ pieces → ∀ direction : Direction,
      word ≠ direction.operator.toString)
    (complete : ∀ piece ∈ pieces.dropLast, piece.dangling? = none ∧ piece ≠ .background)
    (notMark : pieces.getLast? ≠ some (.argument "&")) :
    Reads (pieces.flatMap Piece.words) pieces := by
  induction pieces with
  | nil => exact .nil
  | cons piece pieces ih =>
    cases pieces with
    | nil =>
      cases piece with
      | argument word =>
        exact .argument (plain word List.mem_cons_self) (by simpa using notMark) .nil
      | redirection direction target => exact .redirection rfl .nil
      | dangling direction => exact .dangling rfl
      | background => exact .background rfl
    | cons next pieces =>
      rw [List.dropLast_cons_cons] at complete
      obtain ⟨⟨notDangling, notBackground⟩, hcomplete⟩ := List.forall_mem_cons.mp complete
      have tail := ih (fun word hm => plain word (List.mem_cons_of_mem _ hm)) hcomplete
        (by rwa [List.getLast?_cons_cons] at notMark)
      rw [List.flatMap_cons]
      cases piece with
      | argument word =>
        refine .argument (plain word List.mem_cons_self) ?_ tail
        rintro ⟨_, hnil⟩
        exact words_ne_nil next (List.flatMap_eq_nil_iff.mp hnil next List.mem_cons_self)
      | redirection direction target => exact .redirection rfl tail
      | dangling direction => cases notDangling
      | background => exact absurd rfl notBackground

private theorem danglingEnd?_cons (h : piece.dangling? = none) (pieces : List Piece) :
    danglingEnd? (piece :: pieces) = danglingEnd? pieces := by
  rw [danglingEnd?, danglingEnd?, List.getLast?_cons]
  cases hl : pieces.getLast? with
  | none => simpa using h
  | some last => rfl

private theorem lastTarget?_cons (direction : Direction) (piece : Piece) (pieces : List Piece) :
    lastTarget? direction (piece :: pieces) =
      (lastTarget? direction pieces).or (piece.target? direction) := by
  rw [lastTarget?, lastTarget?, List.filterMap_cons]
  cases piece.target? direction with
  | none => rw [Option.or_none]
  | some target =>
    rw [List.getLast?_cons]
    cases (pieces.filterMap (Piece.target? direction)).getLast? <;> rfl

/-- Nothing is read after an operator without a target. -/
theorem Reads.danglingEnd?_eq {direction : Direction} (h : Reads ws pieces)
    (hm : .dangling direction ∈ pieces) : danglingEnd? pieces = some direction := by
  induction h with
  | nil => cases hm
  | redirection operator tail ih => rw [danglingEnd?_cons rfl, ih (by simpa using hm)]
  | dangling =>
    obtain rfl : direction = _ := by simpa using hm
    rfl
  | background => simp at hm
  | argument plain notMark tail ih => rw [danglingEnd?_cons rfl, ih (by simpa using hm)]

theorem mem_arguments {word : String} : word ∈ arguments pieces ↔ .argument word ∈ pieces := by
  rw [arguments, List.mem_filterMap]
  constructor
  · rintro ⟨piece, hm, hword⟩
    cases piece with
    | argument => exact Option.some.inj hword ▸ hm
    | redirection | dangling | background => cases hword
  · exact fun hm => ⟨_, hm, rfl⟩

theorem mem_of_lastTarget? {direction : Direction} {path : String}
    (h : lastTarget? direction pieces = some path) : .redirection direction path ∈ pieces := by
  obtain ⟨piece, hm, hpath⟩ := List.mem_filterMap.mp (List.mem_of_getLast? h)
  cases piece with
  | redirection =>
    obtain ⟨rfl, rfl⟩ := by simpa [Piece.target?] using hpath
    exact hm
  | argument | dangling | background => cases hpath

theorem notMem_of_lastTarget? {direction : Direction} (h : lastTarget? direction pieces = none)
    (path : String) : .redirection direction path ∉ pieces := by
  intro hm
  rw [lastTarget?, List.getLast?_eq_none_iff, List.filterMap_eq_nil_iff] at h
  simpa [Piece.target?] using h _ hm

def Command.addPieces (command : Command) (pieces : List Piece) : Except ParseError Command :=
  if maxArguments < command.argv.length + (arguments pieces).length then .error .tooManyArguments
  else
    match danglingEnd? pieces with
    | some direction => .error (.missingTarget direction)
    | none =>
      if command.argv ++ arguments pieces = [] then .error .missingCommand
      else
        .ok
          { command with
            argv := command.argv ++ arguments pieces
            input := (lastTarget? .input pieces).or command.input
            output := (lastTarget? .output pieces).or command.output
            background := command.background || decide (.background ∈ pieces) }

theorem Command.addPieces_eq_ok {read : Command} (h : Command.addPieces {} pieces = .ok read) :
    (arguments pieces).length ≤ maxArguments ∧ danglingEnd? pieces = none ∧ arguments pieces ≠ [] ∧
    read =
      { argv := arguments pieces
        input := lastTarget? .input pieces
        output := lastTarget? .output pieces
        background := decide (.background ∈ pieces) } := by
  rw [Command.addPieces] at h
  split at h
  · cases h
  · next room =>
    cases hend : danglingEnd? pieces with
    | some direction => simp [hend] at h
    | none =>
      simp only [hend, List.nil_append, List.length_nil, Nat.zero_add, Option.or_none,
        Bool.false_or] at h room
      split at h
      · cases h
      · next nonempty => exact ⟨Nat.not_lt.mp room, rfl, nonempty, (Except.ok.inj h).symm⟩

/-! The parser, one piece at a time. -/

section
variable {command : Command}

private theorem addPieces_of_arguments_eq_nil (short : command.argv.length ≤ maxArguments)
    (empty : arguments pieces = []) : command.addPieces pieces =
      match danglingEnd? pieces with
      | some direction => .error (.missingTarget direction)
      | none =>
        if command.argv = [] then .error .missingCommand
        else
          .ok
            { command with
              input := (lastTarget? .input pieces).or command.input
              output := (lastTarget? .output pieces).or command.output
              background := command.background || decide (.background ∈ pieces) } := by
  rw [Command.addPieces, empty, List.append_nil, List.length_nil, Nat.add_zero,
    if_neg (Nat.not_lt.mpr short)]

private theorem addWords_nil (short : command.argv.length ≤ maxArguments) :
    command.addWords [] = command.addPieces [] := by
  rw [addPieces_of_arguments_eq_nil short rfl, Command.addWords]
  simp [danglingEnd?, lastTarget?]

private theorem addWords_redirection {direction : Direction} (target : String)
    (rest : List String) : command.addWords (direction.operator.toString :: target :: rest) =
      (command.redirect direction target).addWords rest := by
  rw [Command.addWords, Direction.ofWord?_operator]

private theorem addPieces_redirection (direction : Direction) (target : String)
    (pieces : List Piece) : command.addPieces (.redirection direction target :: pieces) =
      (command.redirect direction target).addPieces pieces := by
  have same : arguments (.redirection direction target :: pieces) = arguments pieces := rfl
  rw [Command.addPieces, Command.addPieces, same, danglingEnd?_cons rfl, lastTarget?_cons,
    lastTarget?_cons, Command.argv_redirect]
  cases direction <;> simp [Command.redirect, Piece.target?]

private theorem addWords_dangling (direction : Direction)
    (short : command.argv.length ≤ maxArguments) :
    command.addWords [direction.operator.toString] =
      command.addPieces [.dangling direction] := by
  rw [Command.addWords, Direction.ofWord?_operator, addPieces_of_arguments_eq_nil short rfl]
  rfl

private theorem addWords_background (short : command.argv.length ≤ maxArguments) :
    command.addWords ["&"] = command.addPieces [.background] := by
  have next : command.addWords ["&"] = Command.addWords { command with background := true } [] := by
    simp [Command.addWords, ofWord?_eq_none mark_plain]
  rw [next, Command.addWords, addPieces_of_arguments_eq_nil short rfl]
  simp [danglingEnd?, lastTarget?, Piece.dangling?, Piece.target?]

private theorem addWords_argument {word : String} {rest : List String}
    (plain : ∀ direction : Direction, word ≠ direction.operator.toString)
    (notMark : ¬ (word = "&" ∧ rest = [])) : command.addWords (word :: rest) =
      if command.argv.length = maxArguments then .error .tooManyArguments
      else Command.addWords { command with argv := command.argv ++ [word] } rest := by
  rw [Command.addWords, ofWord?_eq_none plain]
  simp only [if_neg notMark]

private theorem addPieces_argument (word : String) (pieces : List Piece) :
    command.addPieces (.argument word :: pieces) =
      Command.addPieces { command with argv := command.argv ++ [word] } pieces := by
  have first : arguments (.argument word :: pieces) = word :: arguments pieces := rfl
  rw [Command.addPieces, Command.addPieces, first, danglingEnd?_cons rfl, lastTarget?_cons,
    lastTarget?_cons]
  simp [Piece.target?, Nat.add_assoc, Nat.add_comm 1]

/-- The parser decides word by word what the pieces come to as a whole. -/
theorem Reads.addWords_eq (h : Reads ws pieces) (short : command.argv.length ≤ maxArguments) :
    command.addWords ws = command.addPieces pieces := by
  induction h generalizing command with
  | nil => exact addWords_nil short
  | redirection operator tail ih =>
    rw [operator, addWords_redirection, addPieces_redirection]
    exact ih (by rwa [Command.argv_redirect])
  | dangling operator => rw [operator, addWords_dangling _ short]
  | background mark => rw [mark, addWords_background short]
  | @argument word rest pieces plain notMark tail ih =>
    rw [addWords_argument plain notMark, addPieces_argument]
    split
    · next full =>
      have tooMany :
          maxArguments < (command.argv ++ [word]).length + (arguments pieces).length := by
        rw [List.length_append, List.length_singleton, full]
        omega
      rw [Command.addPieces, if_pos tooMany]
    · next room => exact ih (by rw [List.length_append]; exact Nat.lt_of_le_of_ne short room)

end

private theorem exists_splits_reads (text : List Char) : ∃ words pieces,
    Text.Splits Text.isBlank text words ∧ Reads (words.map String.ofList) pieces := by
  obtain ⟨pieces, reads⟩ := exists_reads ((Text.words text).map String.ofList)
  exact ⟨_, pieces, Text.splits_iff_runs_eq.mpr rfl, reads⟩

private theorem isSkipped_iff (line : List Char) :
    isSkipped line = true ↔ line.all Text.isBlank = true ∨ line.head? = some '#' := by
  simp [isSkipped]

/-- What a line comes to, by its words and their pieces. -/
theorem parse_eq_of_reads {line : String} {pid : UInt32} {words : List (List Char)}
    (splits : Text.Splits Text.isBlank (expandPid pid line).toList words)
    (reads : Reads (words.map String.ofList) pieces) : parse line pid =
      if line.toList.all Text.isBlank ∨ line.toList.head? = some '#' then .ok none
      else if 2048 < line.utf8ByteSize then .error .lineTooLong
      else
        (Command.addPieces {} pieces).map fun command => some
          { command with text := String.ofList (Text.trimEnd (expandPid pid line).toList) } := by
  have hwords : wordsOf (String.ofList (Text.trimEnd (expandPid pid line).toList)) =
      words.map String.ofList := by
    rw [wordsOf, String.toList_ofList, Text.words_trimEnd, Text.words,
      Text.splits_iff_runs_eq.mp splits]
  have hread : Command.addWords {} (words.map String.ofList) = Command.addPieces {} pieces :=
    reads.addWords_eq (Nat.zero_le maxArguments)
  simp only [parse, isSkipped_iff, maxLineBytes, expandPid_trimEnd, hwords, hread]

/-- What the pieces of a line come to that is read as a command. -/
theorem addPieces_of_parse {line : String} {pid : UInt32} {command : Command}
    (h : parse line pid = .ok (some command)) : ∃ words pieces read,
    Text.Splits Text.isBlank (expandPid pid line).toList words ∧
    Reads (words.map String.ofList) pieces ∧
    ¬ (line.toList.all Text.isBlank = true ∨ line.toList.head? = some '#') ∧
    Command.addPieces {} pieces = .ok read ∧
    command = { read with text := String.ofList (Text.trimEnd (expandPid pid line).toList) } := by
  obtain ⟨words, pieces, splits, reads⟩ := exists_splits_reads (expandPid pid line).toList
  rw [parse_eq_of_reads splits reads] at h
  split_ifs at h with skipped long
  · cases h
  · cases hread : Command.addPieces {} pieces with
    | error error => simp [hread, Except.map] at h
    | ok read =>
      refine ⟨words, pieces, read, splits, reads, skipped, hread, ?_⟩
      simpa [hread, Except.map] using h.symm

/-- What a command was read from. -/
theorem reads_of_parse {line : String} {pid : UInt32} {command : Command}
    (h : parse line pid = .ok (some command)) : ∃ words pieces,
    Text.Splits Text.isBlank (expandPid pid line).toList words ∧
    Reads (words.map String.ofList) pieces ∧ (arguments pieces).length ≤ maxArguments ∧
    danglingEnd? pieces = none ∧ arguments pieces ≠ [] ∧
    command =
      { argv := arguments pieces
        input := lastTarget? .input pieces
        output := lastTarget? .output pieces
        background := decide (.background ∈ pieces)
        text := String.ofList (Text.trimEnd (expandPid pid line).toList) } := by
  obtain ⟨words, pieces, read, splits, reads, -, hread, rfl⟩ := addPieces_of_parse h
  obtain ⟨short, complete, nonempty, rfl⟩ := Command.addPieces_eq_ok hread
  exact ⟨words, pieces, splits, reads, short, complete, nonempty, rfl⟩

/-- A command that was read has words. -/
theorem argv_ne_nil_of_parse {line : String} {pid : UInt32} {command : Command}
    (h : parse line pid = .ok (some command)) : command.argv ≠ [] := by
  obtain ⟨words, pieces, splits, reads, short, complete, nonempty, rfl⟩ := reads_of_parse h
  exact nonempty

/-- No word of a command that was read has a blank in it. -/
theorem blank_notMem_of_parse {line : String} {pid : UInt32} {command : Command}
    (h : parse line pid = .ok (some command)) {word : String} (hm : word ∈ command.argv) {c : Char}
    (hc : Text.isBlank c = true) : c ∉ word.toList := by
  obtain ⟨words, pieces, splits, reads, short, complete, nonempty, rfl⟩ := reads_of_parse h
  obtain ⟨chars, hchars, rfl⟩ := List.mem_map.mp (reads.mem_of_mem_words (mem_arguments.mp hm)
    (List.mem_singleton_self word))
  rw [String.toList_ofList]
  intro hmem
  simp [splits.solid hchars c hmem] at hc

/-- A line is split into words and its words are read as pieces in one way only, and this decides
what the line comes to. A blank line and a comment ask for nothing. Of the other lines, one over
2048 bytes is refused; one with more than 512 arguments is refused; then one that ends in an
operator without a target; then one without arguments. What is left is a command of its arguments,
the last target of each direction and the background mark, and its text is the line with the process
id put in and without the blanks at its end. -/
theorem parse_classifies (line : String) (pid : UInt32) : ∃ words pieces,
    Text.Splits Text.isBlank (expandPid pid line).toList words ∧
    Reads (words.map String.ofList) pieces ∧
    (∀ words' pieces', Text.Splits Text.isBlank (expandPid pid line).toList words' →
      Reads (words'.map String.ofList) pieces' → words' = words ∧ pieces' = pieces) ∧
    parse line pid =
      if line.toList.all Text.isBlank ∨ line.toList.head? = some '#' then .ok none
      else if 2048 < line.utf8ByteSize then .error .lineTooLong
      else if 512 < (arguments pieces).length then .error .tooManyArguments
      else
        match danglingEnd? pieces with
        | some direction => .error (.missingTarget direction)
        | none =>
          if arguments pieces = [] then .error .missingCommand
          else
            .ok (some
              { argv := arguments pieces
                input := lastTarget? .input pieces
                output := lastTarget? .output pieces
                background := decide (.background ∈ pieces)
                text := String.ofList (Text.trimEnd (expandPid pid line).toList) }) := by
  obtain ⟨words, pieces, splits, reads⟩ := exists_splits_reads (expandPid pid line).toList
  refine ⟨words, pieces, splits, reads, fun words' pieces' splits' reads' => ?_, ?_⟩
  · obtain rfl : words' = words := splits'.unique splits
    exact ⟨rfl, reads'.unique reads⟩
  · rw [parse_eq_of_reads splits reads]
    congr 2
    simp only [Command.addPieces, maxArguments, List.length_nil, Nat.zero_add, List.nil_append,
      Option.or_none, Bool.false_or]
    split
    · rfl
    · split
      · rfl
      · split <;> rfl

end JobShell
