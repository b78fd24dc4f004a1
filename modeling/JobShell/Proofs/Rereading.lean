import JobShell.Proofs.Reading

/-!
The text of a command, read as a line. It has the words of the line that the command was read from,
no dollar signs that stand for a process id, and no blanks at its end; so it reads as the command
itself in every shell, as long as it is not too long.
-/

namespace JobShell

namespace Text

private theorem trimEnd_trimEnd (text : List Char) : trimEnd (trimEnd text) = trimEnd text :=
  trimEnd_of_solid fun _ hc => solid_of_mem_getLast?_trimEnd hc

private theorem trimEnd_isPrefix (text : List Char) : trimEnd text <+: text := by
  obtain ⟨gap, -, htext⟩ := exists_trimEnd_append text
  exact ⟨gap, htext.symm⟩

/-- Blanks at the end make no difference to the words. -/
theorem Splits.trimEnd {text : List Char} {words : List (List Char)}
    (h : Splits isBlank text words) : Splits isBlank (trimEnd text) words := by
  rw [splits_iff_runs_eq] at h ⊢
  exact (words_trimEnd text).trans h

private theorem Splits.eq_nil_of_blank {text : List Char} {words : List (List Char)}
    (h : Splits isBlank text words) (blank : ∀ c ∈ text, isBlank c = true) : words = [] := by
  rw [← splits_iff_runs_eq.mp h, runs_of_separates blank]

end Text

variable {line : String} {p : UInt32} {command : Command}

/-- In a text without blanks at its end, in which a process id was put, nothing is left to be
done. -/
private theorem expandPid_text (p q : UInt32) (line : String) :
    expandPid q (String.ofList (Text.trimEnd (expandPid p line).toList)) =
      String.ofList (Text.trimEnd (expandPid p line).toList) := by
  refine expandPid_eq_self q fun pair => not_hasDollars_expandPid p line ?_
  rw [String.toList_ofList] at pair
  exact pair.of_isInfix (Text.trimEnd_isPrefix _).isInfix

private theorem text_not_skipped {words : List (List Char)} {pieces : List Piece} {read : Command}
    (splits : Text.Splits Text.isBlank (expandPid p line).toList words)
    (reads : Reads (words.map String.ofList) pieces)
    (notSkipped : ¬ (line.toList.all Text.isBlank = true ∨ line.toList.head? = some '#'))
    (hread : Command.addPieces {} pieces = .ok read) :
    ¬ ((Text.trimEnd (expandPid p line).toList).all Text.isBlank = true ∨
      (Text.trimEnd (expandPid p line).toList).head? = some '#') := by
  rintro (blank | comment)
  · -- A blank text has no words, and a command has some.
    have none : words = [] := splits.trimEnd.eq_nil_of_blank (List.all_eq_true.mp blank)
    have nonempty := (Command.addPieces_eq_ok hread).2.2.1
    rw [none] at reads
    obtain rfl := reads.unique .nil
    exact nonempty rfl
  · have first : (expandPid p line).toList.head? = some '#' := by
      obtain ⟨rest, hrest⟩ := Text.trimEnd_isPrefix (expandPid p line).toList
      rw [← hrest, List.head?_append, comment, Option.some_or]
    exact notSkipped (.inr (head?_of_head?_expandPid p first))

/-- The text of a command that was read is read as the same command by a shell with any process id.
Only if the process id that was put in has made it too long, it is refused as such. -/
theorem parse_text_of_parse (h : parse line p = .ok (some command)) (q : UInt32) :
    (command.text.utf8ByteSize ≤ 2048 → parse command.text q = .ok (some command)) ∧
    (2048 < command.text.utf8ByteSize → parse command.text q = .error .lineTooLong) := by
  obtain ⟨words, pieces, read, splits, reads, notSkipped, hread, rfl⟩ := addPieces_of_parse h
  have expands := expandPid_text p q line
  have skips := text_not_skipped splits reads notSkipped hread
  generalize (expandPid p line).toList = text at *
  have again : Text.Splits Text.isBlank (expandPid q (String.ofList (Text.trimEnd text))).toList
      words := by
    rw [expands, String.toList_ofList]
    exact splits.trimEnd
  dsimp only
  rw [parse_eq_of_reads again reads, expands, String.toList_ofList, Text.trimEnd_trimEnd,
    if_neg skips]
  constructor
  · intro short
    rw [if_neg (Nat.not_lt.mpr short), hread]
    rfl
  · intro long
    rw [if_pos long]

private theorem parse_of_solid {text : String} (notSkipped : isSkipped line.toList = false)
    (short : line.utf8ByteSize ≤ 2048) (htext : expandPid p line = text) (nonempty : text ≠ "")
    (solid : ∀ c ∈ text.toList, Text.isBlank c = false)
    (plain : ∀ direction : Direction, text ≠ direction.operator.toString) (notMark : text ≠ "&") :
    parse line p = .ok (some (Command.ofWords [text])) := by
  have splits : Text.Splits Text.isBlank (expandPid p line).toList [text.toList] := by
    rw [htext]
    exact Text.splits_iff_runs_eq.mpr
      (Text.runs_of_solid (String.toList_eq_nil_iff.not.mpr nonempty) solid)
  have reads : Reads ([text.toList].map String.ofList) [.argument text] := by
    rw [List.map_singleton, String.ofList_toList]
    exact .argument plain (fun mark => notMark mark.1) .nil
  have trimmed : Text.trimEnd text.toList = text.toList :=
    Text.trimEnd_of_solid fun c hc => solid c (List.mem_of_getLast? hc)
  have notSkipped : ¬ (line.toList.all Text.isBlank = true ∨ line.toList.head? = some '#') := by
    simpa [isSkipped] using notSkipped
  rw [parse_eq_of_reads splits reads, if_neg notSkipped, if_neg (Nat.not_lt.mpr short), htext,
    trimmed, String.ofList_toList]
  rfl

private def times (n : Nat) (part : List Char) : String :=
  String.ofList (List.replicate n part).flatten

private theorem utf8ByteSize_times (n : Nat) (part : List Char) :
    (times n part).utf8ByteSize = n * (String.ofList part).utf8ByteSize := by
  induction n with
  | zero => rw [Nat.zero_mul]; rfl
  | succ n ih =>
    rw [times, List.replicate_succ, List.flatten_cons, String.ofList_append,
      String.utf8ByteSize_append, ← times, ih, Nat.succ_mul, Nat.add_comm]

private theorem expandPid_times (p : UInt32) (n : Nat) :
    expandPid p (times n ['$', '$']) = times n (toString p.toNat).toList := by
  rw [expandPid, times, times, String.toList_ofList]
  congr 1
  induction n with
  | zero => rfl
  | succ n ih =>
    rw [List.replicate_succ, List.replicate_succ, List.flatten_cons, List.flatten_cons, ← ih]
    exact expandDollars_pair _ _

private theorem parse_times : parse (times 205 ['$', '$']) 4294967295 =
    .ok (some (Command.ofWords [times 205 "4294967295".toList])) := by
  have head : (times 205 "4294967295".toList).toList.head? = some '4' := by
    rw [times, String.toList_ofList]
    rfl
  have apart {word : String} (h : word.toList.head? ≠ some '4') :
      times 205 "4294967295".toList ≠ word := by
    rintro rfl
    exact h head
  refine parse_of_solid ?_ ?_ (expandPid_times 4294967295 205) (apart (by decide)) ?_
    (fun direction => apart ?_) (apart (by decide))
  · rw [times, String.toList_ofList]
    rfl
  · rw [utf8ByteSize_times]
    decide
  · intro c hc
    rw [times, String.toList_ofList] at hc
    obtain ⟨part, hpart, hc⟩ := List.mem_flatten.mp hc
    obtain rfl := List.eq_of_mem_replicate hpart
    have solid : ("4294967295".toList.all fun c => !Text.isBlank c) = true := by decide
    simpa using List.all_eq_true.mp solid c hc
  · cases direction <;> decide

/-- A number sign that is not the first character of its line and an odd run of dollar signs are
read again as they are. A word of 410 dollar signs comes to 2050 digits, and these are refused. -/
theorem parse_text_of_parse_odd :
    parse " #$$$ > $$ &\t" 7 = .ok (some
      { argv := ["#7$"], output := some "7", background := true, text := " #7$ > 7 &" }) ∧
    parse " #7$ > 7 &" 4294967295 = .ok (some
      { argv := ["#7$"], output := some "7", background := true, text := " #7$ > 7 &" }) ∧
    parse (times 205 ['$', '$']) 4294967295 =
      .ok (some (Command.ofWords [times 205 "4294967295".toList])) ∧
    parse (Command.ofWords [times 205 "4294967295".toList]).text 5 = .error .lineTooLong := by
  have odd : parse " #$$$ > $$ &\t" 7 = .ok (some
      { argv := ["#7$"], output := some "7", background := true, text := " #7$ > 7 &" }) := by
    decide +kernel
  have long : 2048 < (Command.ofWords [times 205 "4294967295".toList]).text.utf8ByteSize := by
    have size := utf8ByteSize_times 205 "4294967295".toList
    exact size ▸ (by decide)
  exact ⟨odd, (parse_text_of_parse odd 4294967295).1 (by decide +kernel), parse_times,
    (parse_text_of_parse parse_times 5).2 long⟩

end JobShell
