import JobShell.Proofs.Reading

/-!
A background mark behind a line. It turns the command of a line that has none into the same command
with the background flag, whatever the last word of the line is.
-/

namespace JobShell

variable {ws : List String} {pieces : List Piece} {line : String} {pid : UInt32} {command : Command}

private theorem Reads.concat_mark (h : Reads ws pieces) (complete : danglingEnd? pieces = none)
    (unmarked : .background ∉ pieces) : Reads (ws ++ ["&"]) (pieces ++ [.background]) := by
  have notDangling : ∀ direction, .dangling direction ∉ pieces := fun direction hm => by
    simp [h.danglingEnd?_eq hm] at complete
  clear complete
  induction h with
  | nil => exact .background rfl
  | redirection operator tail ih =>
    exact .redirection operator (ih (by simpa using unmarked) (by simpa using notDangling))
  | dangling => exact absurd List.mem_cons_self (notDangling _)
  | background => exact absurd List.mem_cons_self unmarked
  | argument plain notMark tail ih =>
    exact .argument plain (by simp) (ih (by simpa using unmarked) (by simpa using notDangling))

/-- The mark adds the background flag to a command that was read, and nothing else. -/
theorem Command.addPieces_concat_mark {read : Command}
    (h : Command.addPieces {} pieces = .ok read) :
    Command.addPieces {} (pieces ++ [.background]) = .ok { read with background := true } := by
  obtain ⟨short, complete, nonempty, rfl⟩ := Command.addPieces_eq_ok h
  have same : arguments (pieces ++ [.background]) = arguments pieces := by
    simp [arguments, Piece.argument?]
  have targets (direction : Direction) :
      lastTarget? direction (pieces ++ [.background]) = lastTarget? direction pieces := by
    simp [lastTarget?, Piece.target?]
  have ends : danglingEnd? (pieces ++ [.background]) = none := by
    simp [danglingEnd?, Piece.dangling?]
  simp [Command.addPieces, same, targets, ends, nonempty, Nat.not_lt.mpr short]

private theorem toList_expandPid_concat_mark (pid : UInt32) (line : String) :
    (expandPid pid (line ++ " &")).toList = (expandPid pid line).toList ++ [' ', '&'] := by
  rw [toList_expandPid, toList_expandPid, String.toList_append]
  exact expandDollars_append_cons (by decide) line.toList ['&']

private theorem splits_concat_mark {text : List Char} {words : List (List Char)}
    (h : Text.Splits Text.isBlank text words) :
    Text.Splits Text.isBlank (text ++ [' ', '&']) (words ++ [['&']]) := by
  rw [Text.splits_iff_runs_eq] at h ⊢
  rw [Text.runs_append_cons Text.isBlank_space, h, Text.runs_of_solid (by simp)
    (List.forall_mem_singleton.mpr (by decide))]

private theorem not_skipped_concat_mark
    (h : ¬ (line.toList.all Text.isBlank = true ∨ line.toList.head? = some '#')) :
    ¬ ((line ++ " &").toList.all Text.isBlank = true ∨
      (line ++ " &").toList.head? = some '#') := by
  rw [String.toList_append]
  cases hline : line.toList with
  | nil => simp [hline] at h
  | cons c rest =>
    rw [hline] at h
    have mark : Text.isBlank '&' = false := by decide
    simpa [mark] using fun hc => h (.inr (by rw [List.head?_cons, hc]))

/-- A mark at the end of a line without one sends its command to the background, and changes nothing
about it but its text. -/
theorem parse_concat_mark (h : parse line pid = .ok (some command))
    (unmarked : command.background = false) (short : line.utf8ByteSize ≤ 2046) :
    parse (line ++ " &") pid =
      .ok (some { command with background := true, text := expandPid pid line ++ " &" }) := by
  obtain ⟨words, pieces, read, splits, reads, notSkipped, hread, rfl⟩ := addPieces_of_parse h
  obtain ⟨-, complete, -, hpieces⟩ := Command.addPieces_eq_ok hread
  have notMarked : .background ∉ pieces := by simpa [hpieces] using unmarked
  have reads' : Reads ((words ++ [['&']]).map String.ofList) (pieces ++ [.background]) := by
    rw [List.map_append]
    exact reads.concat_mark complete notMarked
  have splits' := splits_concat_mark splits
  rw [← toList_expandPid_concat_mark] at splits'
  have size : (line ++ " &").utf8ByteSize = line.utf8ByteSize + 2 := String.utf8ByteSize_append
  have trimmed : Text.trimEnd ((expandPid pid line).toList ++ [' ', '&']) =
      (expandPid pid line ++ " &").toList := by
    rw [Text.trimEnd_of_solid (by simp; decide), String.toList_append]
    rfl
  rw [parse_eq_of_reads splits' reads', if_neg (not_skipped_concat_mark notSkipped),
    if_neg (by omega), Command.addPieces_concat_mark hread, toList_expandPid_concat_mark, trimmed]
  simp only [Except.map, String.ofList_toList]

end JobShell
