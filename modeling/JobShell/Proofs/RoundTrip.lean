import JobShell.Command.Printer
import JobShell.Proofs.Reading

/-!
The commands that lines can ask for, and the lines that ask for them. A command that was read is
well formed, and a well-formed command is read back from its line.
-/

namespace JobShell

namespace Command

def IsWord (word : String) : Prop :=
  word ≠ "" ∧ (∀ c ∈ word.toList, Text.isBlank c = false) ∧ ¬ HasDollars word.toList

instance (word : String) : Decidable (IsWord word) :=
  have : Decidable (∀ c ∈ word.toList, Text.isBlank c = false) := List.decidableBAll _ _
  inferInstanceAs (Decidable (_ ∧ _ ∧ _))

structure WellFormed (command : Command) : Prop where
  nonempty : command.argv ≠ []
  short : command.argv.length ≤ 512
  words : ∀ word ∈ command.argv, IsWord word
  targets : ∀ direction, ∀ path ∈ command.target direction, IsWord path
  plain : ∀ word ∈ command.argv, word ≠ "<" ∧ word ≠ ">"
  notMark : command.argv.getLast? = some "&" →
    command.background = true ∨ command.input.isSome = true ∨ command.output.isSome = true

def front (command : Command) : List Piece :=
  command.argv.map .argument ++ (command.input.toList.map (.redirection .input) ++
    command.output.toList.map (.redirection .output))

def pieces (command : Command) : List Piece :=
  command.front ++ if command.background then [.background] else []

def spelled (command : Command) : List Char :=
  (command.pieces.flatMap Piece.words).flatMap fun word => ' ' :: word.toList

variable {command : Command} {argv ws : List String} {word : String} {piece : Piece}

private theorem mem_front : piece ∈ command.front ↔
    (∃ word ∈ command.argv, piece = .argument word) ∨
    ∃ direction, ∃ path ∈ command.target direction, piece = .redirection direction path := by
  simp only [front, List.mem_append, List.mem_map, Option.mem_toList]
  constructor
  · rintro (⟨word, hm, rfl⟩ | ⟨path, hp, rfl⟩ | ⟨path, hp, rfl⟩)
    · exact .inl ⟨word, hm, rfl⟩
    · exact .inr ⟨.input, path, hp, rfl⟩
    · exact .inr ⟨.output, path, hp, rfl⟩
  · rintro (⟨word, hm, rfl⟩ | ⟨direction, path, hp, rfl⟩)
    · exact .inl ⟨word, hm, rfl⟩
    · cases direction with
      | input => exact .inr (.inl ⟨path, hp, rfl⟩)
      | output => exact .inr (.inr ⟨path, hp, rfl⟩)

private theorem mem_pieces : piece ∈ command.pieces ↔
    piece ∈ command.front ∨ command.background = true ∧ piece = .background := by
  rw [pieces, List.mem_append]
  cases command.background <;> simp

/-! What the pieces of a command come to. -/

private theorem filterMap_pieces {α : Type} {f : Piece → Option α} (h : f .background = none)
    (command : Command) :
    command.pieces.filterMap f = command.argv.filterMap (f ∘ .argument) ++
      (command.input.toList.filterMap (f ∘ .redirection .input) ++
        command.output.toList.filterMap (f ∘ .redirection .output)) := by
  rw [pieces, front, List.filterMap_append, List.filterMap_append, List.filterMap_append,
    List.filterMap_map, List.filterMap_map, List.filterMap_map]
  cases command.background <;> simp [h]

private theorem arguments_pieces : arguments command.pieces = command.argv := by
  rw [arguments, filterMap_pieces rfl]
  simp [Function.comp_def, Piece.argument?]

private theorem lastTarget?_pieces (direction : Direction) :
    lastTarget? direction command.pieces = command.target direction := by
  rw [lastTarget?, filterMap_pieces rfl]
  cases direction <;> cases hin : command.input <;> cases hout : command.output <;>
    simp [Function.comp_def, Piece.target?, target, hin, hout]

private theorem background_mem_pieces :
    .background ∈ command.pieces ↔ command.background = true := by
  simp [mem_pieces, mem_front]

private theorem dangling?_of_mem_pieces (hm : piece ∈ command.pieces) : piece.dangling? = none := by
  rcases mem_pieces.mp hm with hm | ⟨_, rfl⟩
  · rcases mem_front.mp hm with ⟨_, _, rfl⟩ | ⟨_, _, _, rfl⟩ <;> rfl
  · rfl

private theorem danglingEnd?_pieces : danglingEnd? command.pieces = none :=
  Option.bind_eq_none_iff.mpr fun _ hlast => dangling?_of_mem_pieces (List.mem_of_getLast? hlast)

private theorem addPieces_pieces (wf : command.WellFormed) :
    addPieces {} command.pieces = .ok { command with text := "" } := by
  rw [addPieces, arguments_pieces, danglingEnd?_pieces, lastTarget?_pieces, lastTarget?_pieces,
    if_neg (by simpa [maxArguments] using wf.short), List.nil_append]
  simp only [if_neg wf.nonempty, background_mem_pieces, target, Option.or_none, Bool.false_or,
    Bool.decide_eq_true]

/-! The pieces can be read off the line. -/

private theorem ne_background_of_mem_dropLast (hm : piece ∈ command.pieces.dropLast) :
    piece ≠ .background := by
  rintro rfl
  have notFront : .background ∉ command.front := by simp [mem_front]
  cases hb : command.background with
  | false =>
    have := background_mem_pieces.mp (List.mem_of_mem_dropLast hm)
    simp [hb] at this
  | true =>
    rw [pieces, hb, if_pos rfl, List.dropLast_concat] at hm
    exact notFront hm

private theorem getLast?_pieces_ne (wf : command.WellFormed) :
    command.pieces.getLast? ≠ some (.argument "&") := by
  intro hlast
  have bare : command.background = false ∧ command.input = none ∧ command.output = none := by
    cases hb : command.background <;> cases hin : command.input <;> cases hout : command.output <;>
      simp [pieces, front, hb, hin, hout] at hlast ⊢
  obtain ⟨hb, hin, hout⟩ := bare
  have hargv : command.argv.getLast? = some "&" := by
    simpa [pieces, front, hb, hin, hout] using hlast
  simpa [hb, hin, hout] using wf.notMark hargv

private theorem reads_pieces (wf : command.WellFormed) :
    Reads (command.pieces.flatMap Piece.words) command.pieces := by
  refine reads_flatMap_words (fun word hm direction => ?_) (fun piece hm => ?_)
    (getLast?_pieces_ne wf)
  · have hargv : word ∈ command.argv := by simpa [mem_pieces, mem_front] using hm
    cases direction with
    | input => exact (wf.plain word hargv).1
    | output => exact (wf.plain word hargv).2
  · exact ⟨dangling?_of_mem_pieces (List.mem_of_mem_dropLast hm), ne_background_of_mem_dropLast hm⟩

private theorem isWord_of_mem_pieces (wf : command.WellFormed)
    (hm : word ∈ command.pieces.flatMap Piece.words) : IsWord word := by
  obtain ⟨piece, hm, hw⟩ := List.mem_flatMap.mp hm
  rcases mem_pieces.mp hm with hm | ⟨_, rfl⟩
  · rcases mem_front.mp hm with ⟨argument, ha, rfl⟩ | ⟨direction, path, hp, rfl⟩
    · obtain rfl := List.mem_singleton.mp hw
      exact wf.words word ha
    · simp only [Piece.words, List.mem_cons, List.not_mem_nil, or_false] at hw
      rcases hw with rfl | rfl
      · cases direction <;> decide +kernel
      · exact wf.targets direction word hp
  · obtain rfl := List.mem_singleton.mp hw
    decide +kernel

private theorem splits_spelled (wf : command.WellFormed) : Text.Splits Text.isBlank command.spelled
    ((command.pieces.flatMap Piece.words).map String.toList) := by
  have words : command.spelled =
      ((command.pieces.flatMap Piece.words).map String.toList).flatMap (' ' :: ·) := by
    rw [List.flatMap_map, spelled]
  rw [words]
  refine Text.splits_flatMap Text.isBlank_space fun chars hchars => ?_
  obtain ⟨word, hm, rfl⟩ := List.mem_map.mp hchars
  obtain ⟨nonempty, solid, _⟩ := isWord_of_mem_pieces wf hm
  exact ⟨by simpa using nonempty, solid⟩

private theorem not_hasDollars_flatMap (h : ∀ word ∈ ws, ¬ HasDollars word.toList) :
    ¬ HasDollars (ws.flatMap fun word => ' ' :: word.toList) := by
  induction ws with
  | nil => exact not_hasDollars_of_notMem (by simp)
  | cons word ws ih =>
    obtain ⟨hword, hws⟩ := List.forall_mem_cons.mp h
    rw [List.flatMap_cons, List.cons_append]
    refine not_hasDollars_cons.mpr ⟨by simp, not_hasDollars_append hword (ih hws) fun _ => ?_⟩
    cases ws <;> simp

private theorem solid_of_mem_getLast?_flatMap (h : ∀ word ∈ ws, IsWord word) :
    ∀ c ∈ (ws.flatMap fun word => ' ' :: word.toList).getLast?, Text.isBlank c = false := by
  induction ws with
  | nil => simp
  | cons word ws ih =>
    obtain ⟨⟨nonempty, solid, _⟩, hws⟩ := List.forall_mem_cons.mp h
    intro c hc
    rw [List.flatMap_cons, List.getLast?_append,
      List.getLast?_cons_of_ne_nil (by simpa using nonempty)] at hc
    rcases Option.or_eq_some_iff.mp hc with hc | ⟨_, hc⟩
    · exact ih hws c hc
    · exact solid c (List.mem_of_getLast? hc)

private theorem WellFormed.parse_eq (wf : command.WellFormed) {line : String} {gap : List Char}
    (blank : ∀ c ∈ gap, Text.isBlank c = true) (spells : gap ++ line.toList = command.spelled)
    (head : line.toList.head? ≠ some '#') (short : line.utf8ByteSize ≤ 2048) (pid : UInt32) :
    parse line pid = .ok (some { command with text := line }) := by
  have isWord : ∀ word ∈ command.pieces.flatMap Piece.words, IsWord word :=
    fun _ hm => isWord_of_mem_pieces wf hm
  have inside : line.toList <:+: command.spelled :=
    spells ▸ (List.suffix_append gap line.toList).isInfix
  have dollars : ¬ HasDollars line.toList := fun pair =>
    not_hasDollars_flatMap (fun word hm => (isWord word hm).2.2) (pair.of_isInfix inside)
  have runs := Text.splits_iff_runs_eq.mp (splits_spelled wf)
  rw [← spells, Text.runs_separates_append blank] at runs
  have splits := Text.splits_iff_runs_eq.mpr runs
  have nonblank : ¬ ∀ c ∈ line.toList, Text.isBlank c = true := by
    intro all
    rw [Text.runs_of_separates all] at runs
    obtain ⟨word, hm⟩ := List.exists_mem_of_ne_nil _ wf.nonempty
    have piece : .argument word ∈ command.pieces := by simp [mem_pieces, mem_front, hm]
    have : word.toList ∈ [] := runs ▸ List.mem_map_of_mem
      (List.mem_flatMap.mpr ⟨_, piece, List.mem_singleton_self word⟩)
    cases this
  have trimmed : Text.trimEnd line.toList = line.toList := by
    refine Text.trimEnd_of_solid fun c hc => ?_
    refine solid_of_mem_getLast?_flatMap isWord c ?_
    show c ∈ command.spelled.getLast?
    rw [← spells, List.getLast?_append, Option.mem_def.mp hc]
    rfl
  have reads : Reads (((command.pieces.flatMap Piece.words).map String.toList).map String.ofList)
      command.pieces := by simpa using reads_pieces wf
  rw [parse_eq_of_reads (by rwa [expandPid_eq_self pid dollars]) reads,
    if_neg (by simp [nonblank, head]), if_neg (Nat.not_lt.mpr short), expandPid_eq_self pid dollars,
    trimmed, String.ofList_toList, addPieces_pieces wf]
  rfl

private theorem toList_unwords (nonempty : ws ≠ []) :
    ' ' :: (Text.unwords ws).toList = ws.flatMap fun word => ' ' :: word.toList := by
  induction ws with
  | nil => exact absurd rfl nonempty
  | cons word ws ih =>
    cases ws with
    | nil => simp [Text.unwords]
    | cons next ws =>
      rw [List.flatMap_cons, ← ih (by simp), Text.unwords, String.intercalate_cons_cons]
      simp [Text.unwords]

private theorem words_pieces : command.pieces.flatMap Piece.words =
    command.argv ++ ((command.input.toList.flatMap fun path => ["<", path]) ++
      command.output.toList.flatMap fun path => [">", path]) ++
      if command.background then ["&"] else [] := by
  have arguments : (command.argv.map Piece.argument).flatMap Piece.words = command.argv := by
    simp [List.flatMap_map, Piece.words]
  rw [pieces, front, List.flatMap_append, List.flatMap_append, arguments]
  cases command.input <;> cases command.output <;> cases command.background <;> rfl

/-- The line of a command spells it. -/
theorem toList_render (nonempty : command.argv ≠ []) :
    command.render.toList = command.spelled := by
  have lead : (" " ++ Text.unwords command.argv).toList =
      command.argv.flatMap fun word => ' ' :: word.toList := by
    rw [← toList_unwords nonempty, String.toList_append]
    rfl
  rw [render, spelled, words_pieces, String.toList_append, String.toList_append,
    String.toList_append, lead, List.flatMap_append, List.flatMap_append]
  cases command.input <;> cases command.output <;> cases command.background <;>
    simp [renderTarget, Direction.operator]

private theorem head?_render : command.render.toList.head? = some ' ' := by
  simp [render]

/-! A command that is told as its words only. -/

private theorem spelled_ofWords (nonempty : argv ≠ []) :
    ' ' :: (ofWords argv).text.toList = (ofWords argv).spelled := by
  rw [spelled, words_pieces]
  simpa [ofWords] using toList_unwords nonempty

private theorem spelled_inBackground (nonempty : argv ≠ []) :
    ' ' :: (ofWords argv).inBackground.text.toList = (ofWords argv).inBackground.spelled := by
  have plain := spelled_ofWords nonempty
  rw [spelled, words_pieces] at plain ⊢
  rw [inBackground, String.toList_append, ← List.cons_append, plain]
  simp [ofWords]

private theorem head?_of_spells (wf : command.WellFormed) {line : List Char}
    (spells : ' ' :: line = command.spelled) : line.head? = command.name.toList.head? := by
  rw [spelled, words_pieces, name] at *
  cases hargv : command.argv with
  | nil => exact absurd hargv wf.nonempty
  | cons word ws =>
    have hword : word.toList ≠ [] := by simpa using (wf.words word (by simp [hargv])).1
    rw [hargv, List.cons_append, List.cons_append, List.flatMap_cons, List.cons_append,
      List.cons_inj_right] at spells
    rw [spells, List.head?_append_of_ne_nil _ hword]
    rfl

private theorem WellFormed.parse_text (wf : command.WellFormed)
    (spells : ' ' :: command.text.toList = command.spelled)
    (head : command.name.toList.head? ≠ some '#') (short : command.text.utf8ByteSize ≤ 2048)
    (pid : UInt32) : parse command.text pid = .ok (some command) := by
  have blank : ∀ c ∈ [' '], Text.isBlank c = true := by simpa using Text.isBlank_space
  exact wf.parse_eq blank spells (by rwa [head?_of_spells wf spells]) short pid

end Command

/-! What is read is well formed. -/

private theorem eq_map_argument {pieces : List Piece}
    (h : ∀ piece ∈ pieces, ∃ word, piece = .argument word) :
    pieces = (arguments pieces).map .argument := by
  induction pieces with
  | nil => rfl
  | cons piece pieces ih =>
    obtain ⟨⟨word, rfl⟩, hpieces⟩ := List.forall_mem_cons.mp h
    conv_lhs => rw [ih hpieces]
    rfl

private theorem getLast?_arguments_ne {ws : List String} {pieces : List Piece}
    (reads : Reads ws pieces) (complete : danglingEnd? pieces = none)
    (foreground : .background ∉ pieces)
    (undirected : ∀ direction, lastTarget? direction pieces = none) :
    (arguments pieces).getLast? ≠ some "&" := by
  have only : ∀ piece ∈ pieces, ∃ word, piece = .argument word := by
    intro piece hm
    cases piece with
    | argument word => exact ⟨word, rfl⟩
    | redirection direction path =>
      exact absurd hm (notMem_of_lastTarget? (undirected direction) path)
    | dangling direction => simp [reads.danglingEnd?_eq hm] at complete
    | background => exact absurd hm foreground
  intro hlast
  refine reads.notMark ?_
  rw [eq_map_argument only, List.getLast?_map, hlast]
  rfl

private theorem wellFormed_of_parse {line : String} {pid : UInt32} {command : Command}
    (h : parse line pid = .ok (some command)) : command.WellFormed := by
  obtain ⟨words, pieces, splits, reads, short, complete, nonempty, rfl⟩ := reads_of_parse h
  have isWord {piece : Piece} {word : String} (hm : piece ∈ pieces) (hw : word ∈ piece.words) :
      Command.IsWord word := by
    obtain ⟨chars, hm, rfl⟩ := List.mem_map.mp (reads.mem_of_mem_words hm hw)
    rw [Command.IsWord, String.toList_ofList]
    exact ⟨by simpa using splits.ne_nil hm, splits.solid hm, fun pair =>
      not_hasDollars_expandPid pid line (pair.of_isInfix (splits.isInfix hm))⟩
  refine ⟨nonempty, short, fun word hm => ?_, fun direction path hp => ?_, fun word hm => ?_, ?_⟩
  · exact isWord (mem_arguments.mp hm) (List.mem_singleton_self word)
  · have hp : lastTarget? direction pieces = some path := by cases direction <;> exact hp
    exact isWord (mem_of_lastTarget? hp) (by simp [Piece.words])
  · have plain := reads.plain (mem_arguments.mp hm)
    exact ⟨plain .input, plain .output⟩
  · intro hlast
    by_contra hnone
    simp only [decide_eq_true_eq, not_or, Bool.not_eq_true, Option.isSome_eq_false_iff,
      Option.isNone_iff_eq_none] at hnone
    obtain ⟨foreground, hin, hout⟩ := hnone
    exact getLast?_arguments_ne reads complete foreground
      (fun direction => by cases direction <;> assumption) hlast

/-- The commands that are read from lines are the well-formed ones. A well-formed command is read
back from its line, if that is not too long; if it is told as its words only, with or without a
background mark, and does not begin like a comment, also from its text. -/
theorem parse_render_inverse :
    (∀ command : Command, command.WellFormed → command.render.utf8ByteSize ≤ 2048 → ∀ pid,
      parse command.render pid = .ok (some { command with text := command.render })) ∧
    (∀ line pid command, parse line pid = .ok (some command) → command.WellFormed) ∧
    (∀ argv, (Command.ofWords argv).WellFormed →
      (Command.ofWords argv).name.toList.head? ≠ some '#' →
      (Command.ofWords argv).text.utf8ByteSize ≤ 2048 → ∀ pid,
      parse (Command.ofWords argv).text pid = .ok (some (Command.ofWords argv))) ∧
    ∀ argv, (Command.ofWords argv).inBackground.WellFormed →
      (Command.ofWords argv).name.toList.head? ≠ some '#' →
      (Command.ofWords argv).inBackground.text.utf8ByteSize ≤ 2048 → ∀ pid,
      parse (Command.ofWords argv).inBackground.text pid =
        .ok (some (Command.ofWords argv).inBackground) := by
  refine ⟨fun command wf short pid => ?_, fun _ _ _ => wellFormed_of_parse,
    fun argv wf head short pid => ?_, fun argv wf head short pid => ?_⟩
  · have spells : [] ++ command.render.toList = command.spelled :=
      Command.toList_render wf.nonempty
    exact wf.parse_eq (by simp) spells (by simp [Command.head?_render]) short pid
  · exact wf.parse_text (Command.spelled_ofWords wf.nonempty) head short pid
  · exact wf.parse_text (Command.spelled_inBackground wf.nonempty) head short pid

/-- An operator may be a target, and a mark at the end may be an argument of a command with one. -/
theorem parse_render_inverse_marked :
    ({ argv := ["#1", "&"], input := some "<", text := "" } : Command).WellFormed ∧
    parse " #1 & < <" 7 =
      .ok (some { argv := ["#1", "&"], input := some "<", text := " #1 & < <" }) ∧
    (Command.ofWords ["sleep", "$1"]).inBackground.WellFormed ∧
    parse "sleep $1 &" 7 = .ok (some (Command.ofWords ["sleep", "$1"]).inBackground) := by
  have marked : ({ argv := ["#1", "&"], input := some "<", text := "" } : Command).WellFormed :=
    { nonempty := by decide
      short := by decide
      words := by decide +kernel
      targets := by rintro (_ | _) path ⟨⟩; decide +kernel
      plain := by decide +kernel
      notMark := by decide +kernel }
  have sleep : (Command.ofWords ["sleep", "$1"]).inBackground.WellFormed :=
    { nonempty := by decide
      short := by decide
      words := by decide +kernel
      targets := by rintro (_ | _) path ⟨⟩
      plain := by decide +kernel
      notMark := by decide +kernel }
  exact ⟨marked, parse_render_inverse.1 _ marked (by decide +kernel) 7, sleep,
    parse_render_inverse.2.2.2 _ sleep (by decide +kernel) (by decide +kernel) 7⟩

end JobShell
