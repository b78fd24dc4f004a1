import JobShell.Text.Blank
import Mathlib.Data.List.TakeWhile

/-!
What it is to split a text into its longest runs, told without the function that does it: a text is
split in one way only, and `runs` finds it. Blanks around a text change nothing about its words.
-/

namespace JobShell.Text

/-- The text is these words in order, each a longest run of characters that do not separate, with
separators between them and perhaps around them. -/
inductive Splits (sep : Char → Bool) : List Char → List (List Char) → Prop
  | gap {text : List Char} (separates : ∀ c ∈ text, sep c = true) : Splits sep text []
  | word (gap : List Char) {word rest : List Char} {ws : List (List Char)}
      (separates : ∀ c ∈ gap, sep c = true) (nonempty : word ≠ [])
      (solid : ∀ c ∈ word, sep c = false) (apart : ∀ c ∈ rest.head?, sep c = true)
      (tail : Splits sep rest ws) :
      Splits sep (gap ++ word ++ rest) (word :: ws)

variable {sep : Char → Bool} {c : Char} {text gap word rest : List Char} {ws : List (List Char)}

theorem runs_append_cons (hc : sep c = true) (text rest : List Char) :
    runs sep (text ++ c :: rest) = runs sep text ++ runs sep rest := by
  rw [runs, List.splitOnP_append_cons _ _ hc, List.filter_append]
  rfl

private theorem runs_cons (hc : sep c = true) (rest : List Char) : runs sep
    (c :: rest) = runs sep rest :=
  runs_append_cons hc [] rest

theorem runs_of_separates (h : ∀ c ∈ gap, sep c = true) : runs sep gap = [] := by
  induction gap with
  | nil => rfl
  | cons c gap ih =>
    obtain ⟨hc, hgap⟩ := List.forall_mem_cons.mp h
    rw [runs_cons hc, ih hgap]

/-- Separators in front of a text do not matter. -/
theorem runs_separates_append (h : ∀ c ∈ gap, sep c = true) (text : List Char) :
    runs sep (gap ++ text) = runs sep text := by
  induction gap with
  | nil => rfl
  | cons c gap ih =>
    obtain ⟨hc, hgap⟩ := List.forall_mem_cons.mp h
    rw [List.cons_append, runs_cons hc, ih hgap]

private theorem runs_append_separates (h : ∀ c ∈ gap, sep c = true) (text : List Char) :
    runs sep (text ++ gap) = runs sep text := by
  cases gap with
  | nil => rw [List.append_nil]
  | cons c gap =>
    obtain ⟨hc, hgap⟩ := List.forall_mem_cons.mp h
    rw [runs_append_cons hc, runs_of_separates hgap, List.append_nil]

theorem runs_of_solid (nonempty : word ≠ []) (solid : ∀ c ∈ word, sep c = false) :
    runs sep word = [word] := by
  rw [runs, List.splitOnP_eq_singleton solid]
  simpa using nonempty

private theorem runs_solid_append (nonempty : word ≠ []) (solid : ∀ c ∈ word, sep c = false)
    (apart : ∀ c ∈ rest.head?, sep c = true) : runs sep (word ++ rest) = word :: runs sep rest := by
  cases rest with
  | nil => rw [List.append_nil, runs_of_solid nonempty solid, runs_nil]
  | cons c rest =>
    have hc : sep c = true := apart c rfl
    rw [runs_append_cons hc, runs_cons hc, runs_of_solid nonempty solid]
    rfl

private theorem Splits.cons_separator (hc : sep c = true) (h : Splits sep text ws) :
    Splits sep (c :: text) ws := by
  cases h with
  | gap separates => exact .gap (List.forall_mem_cons.mpr ⟨hc, separates⟩)
  | word gap separates nonempty solid apart tail =>
    exact .word (c :: gap) (List.forall_mem_cons.mpr ⟨hc, separates⟩) nonempty solid apart
      tail

private theorem exists_splits (sep : Char → Bool) (text : List Char) :
    ∃ ws, Splits sep text ws := by
  induction text with
  | nil => exact ⟨[], .gap (by simp)⟩
  | cons c text ih =>
    obtain ⟨ws, split⟩ := ih
    by_cases hc : sep c = true
    · exact ⟨ws, split.cons_separator hc⟩
    -- The character begins the first word, or is one by itself if a separator follows.
    have hc : sep c = false := by simpa using hc
    have alone : ∀ c' ∈ [c], sep c' = false := by simpa using hc
    cases split with
    | gap separates =>
      exact ⟨[[c]], .word [] (by simp) (by simp) alone
        (fun d hd => separates d (List.mem_of_mem_head? hd)) (.gap separates)⟩
    | @word gap word rest ws separates nonempty solid apart tail =>
      cases gap with
      | nil =>
        exact ⟨(c :: word) :: ws, .word [] (by simp) (by simp)
          (List.forall_mem_cons.mpr ⟨hc, solid⟩) apart tail⟩
      | cons d gap =>
        refine ⟨[c] :: word :: ws, .word [] (by simp) (by simp) alone ?_
          (.word _ separates nonempty solid apart tail)⟩
        simpa using separates d List.mem_cons_self

private theorem Splits.runs_eq (h : Splits sep text ws) : runs sep text = ws := by
  induction h with
  | gap separates => exact runs_of_separates separates
  | word gap separates nonempty solid apart tail ih =>
    rw [List.append_assoc, runs_separates_append separates, runs_solid_append nonempty solid apart,
      ih]

/-- A text is split in one way only, and this is the way. -/
theorem splits_iff_runs_eq : Splits sep text ws ↔ runs sep text = ws := by
  refine ⟨Splits.runs_eq, ?_⟩
  rintro rfl
  obtain ⟨ws, split⟩ := exists_splits sep text
  exact split.runs_eq ▸ split

theorem Splits.unique {other : List (List Char)} (h : Splits sep text ws)
    (h' : Splits sep text other) : ws = other :=
  h.runs_eq.symm.trans h'.runs_eq

theorem Splits.ne_nil (h : Splits sep text ws) (hm : word ∈ ws) : word ≠ [] := by
  rw [← h.runs_eq] at hm
  exact ne_nil_of_mem_runs hm

theorem Splits.solid (h : Splits sep text ws) (hm : word ∈ ws) : ∀ c ∈ word, sep c = false := by
  induction h with
  | gap => cases hm
  | word _ _ _ solid _ _ ih =>
    rcases List.mem_cons.mp hm with rfl | hm
    · exact solid
    · exact ih hm

/-- The words stand in the text as they are. -/
theorem Splits.isInfix (h : Splits sep text ws) (hm : word ∈ ws) : word <:+: text := by
  induction h with
  | gap => cases hm
  | @word gap first rest ws _ _ _ _ _ ih =>
    rcases List.mem_cons.mp hm with rfl | hm
    · exact List.infix_append gap word rest
    · exact (ih hm).trans (List.suffix_append _ rest).isInfix

/-- Words with a separator in front of each are split into just these words. -/
theorem splits_flatMap (hc : sep c = true)
    (h : ∀ word ∈ ws, word ≠ [] ∧ ∀ d ∈ word, sep d = false) :
    Splits sep (ws.flatMap (c :: ·)) ws := by
  induction ws with
  | nil => exact .gap (by simp)
  | cons word ws ih =>
    obtain ⟨⟨nonempty, solid⟩, hws⟩ := List.forall_mem_cons.mp h
    refine .word [c] (by simpa using hc) nonempty solid ?_ (ih hws)
    cases ws with
    | nil => simp
    | cons next ws => simpa using hc

/-! A text without the blanks at its end. -/

theorem trimEnd_append (h : ∀ c ∈ gap, isBlank c = true) (text : List Char) :
    trimEnd (text ++ gap) = trimEnd text := by
  have hgap : gap.reverse.dropWhile isBlank = [] := by
    rw [List.dropWhile_eq_nil_iff]
    simpa using h
  rw [trimEnd, List.reverse_append, List.dropWhile_append, hgap]
  rfl

theorem trimEnd_of_solid (h : ∀ c ∈ text.getLast?, isBlank c = false) : trimEnd text = text := by
  rw [← List.head?_reverse] at h
  rw [trimEnd]
  cases hr : text.reverse with
  | nil => simpa using hr.symm
  | cons c rest =>
    have hc : isBlank c = false := h c (by rw [hr]; rfl)
    rw [List.dropWhile_cons_of_neg (by simpa using hc), ← hr, List.reverse_reverse]

/-- Only blanks are taken from the end of a text. -/
theorem exists_trimEnd_append (text : List Char) :
    ∃ gap, (∀ c ∈ gap, isBlank c = true) ∧ text = trimEnd text ++ gap := by
  refine ⟨(text.reverse.takeWhile isBlank).reverse, ?_, ?_⟩
  · simpa using fun c hc => List.mem_takeWhile_imp hc
  · rw [trimEnd, ← List.reverse_append, List.takeWhile_append_dropWhile, List.reverse_reverse]

/-- No blank is left at the end. -/
theorem solid_of_mem_getLast?_trimEnd (h : c ∈ (trimEnd text).getLast?) : isBlank c = false := by
  rw [trimEnd, List.getLast?_reverse] at h
  have hhead := List.head?_dropWhile_not isBlank text.reverse
  rwa [Option.mem_def.mp h] at hhead

theorem words_trimEnd (text : List Char) : words (trimEnd text) = words text := by
  obtain ⟨gap, separates, htext⟩ := exists_trimEnd_append text
  calc words (trimEnd text) = words (trimEnd text ++ gap) :=
        (runs_append_separates separates _).symm
    _ = words text := by rw [← htext]

end JobShell.Text
