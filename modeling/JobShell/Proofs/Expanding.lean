import JobShell.Command.Expansion
import JobShell.Proofs.Splitting
import Mathlib.Data.List.Chain
import Mathlib.Data.List.Infix

/-!
What the process id does to the text that it is put into. Text without two dollar signs in a row
stays as it is, no two are left in a row, and blanks stay where they are. All that is asked of the
process id is that it contains neither dollar signs nor blanks.
-/

namespace JobShell

/-- Two dollar signs in a row occur in the text. -/
def HasDollars (text : List Char) : Prop :=
  ['$', '$'] <:+: text

instance (text : List Char) : Decidable (HasDollars text) :=
  inferInstanceAs (Decidable (_ <:+: _))

variable {pid text part : List Char} {c : Char}

theorem HasDollars.of_isInfix (h : HasDollars part) (hp : part <:+: text) : HasDollars text :=
  List.IsInfix.trans h hp

private theorem not_hasDollars_iff :
    ¬ HasDollars text ↔ text.IsChain fun first second => ¬ (first = '$' ∧ second = '$') := by
  rw [List.isChain_iff_forall_rel_of_append_cons_cons]
  constructor
  · rintro none first second before after rfl ⟨rfl, rfl⟩
    exact none ⟨before, after, by simp⟩
  · rintro apart ⟨before, after, rfl⟩
    exact apart (a := '$') (b := '$') (List.append_assoc before _ after) ⟨rfl, rfl⟩

theorem not_hasDollars_cons :
    ¬ HasDollars (c :: text) ↔ (c = '$' → text.head? ≠ some '$') ∧ ¬ HasDollars text := by
  rw [not_hasDollars_iff, not_hasDollars_iff, List.isChain_cons]
  refine and_congr_left fun _ => ⟨fun h hc hhead => h '$' hhead ⟨hc, rfl⟩, ?_⟩
  rintro h first hfirst ⟨hc, rfl⟩
  exact h hc hfirst

theorem not_hasDollars_append (hp : ¬ HasDollars part) (ht : ¬ HasDollars text)
    (apart : part.getLast? = some '$' → text.head? ≠ some '$') : ¬ HasDollars (part ++ text) := by
  rw [not_hasDollars_iff] at hp ht ⊢
  refine List.isChain_append.mpr ⟨hp, ht, ?_⟩
  rintro first hfirst second hsecond ⟨rfl, rfl⟩
  exact apart hfirst hsecond

theorem not_hasDollars_of_notMem (h : '$' ∉ text) : ¬ HasDollars text :=
  fun pair => h (pair.subset List.mem_cons_self)

theorem expandDollars_eq_self (h : ¬ HasDollars text) : expandDollars pid text = text := by
  fun_induction expandDollars pid text with
  | case1 => rfl
  | case2 rest => exact absurd (List.prefix_append ['$', '$'] rest).isInfix h
  | case3 c rest _ ih => rw [ih (not_hasDollars_cons.mp h).2]

private theorem head?_of_head?_expandDollars (hpid : pid ≠ []) (foreign : c ∉ pid)
    (h : (expandDollars pid text).head? = some c) : text.head? = some c := by
  fun_cases expandDollars pid text with
  | case1 => exact h
  | case2 rest =>
    rw [expandDollars_pair, List.head?_append_of_ne_nil _ hpid] at h
    exact absurd (List.mem_of_mem_head? h) foreign
  | case3 d rest notPair =>
    rw [expandDollars.eq_3 _ _ _ notPair] at h
    exact h

/-- What comes first stays first, unless it begins a pair. -/
theorem head?_expandDollars (h : text.head? ≠ some '$') :
    (expandDollars pid text).head? = text.head? := by
  cases text with
  | nil => rfl
  | cons c rest => rw [expandDollars_cons pid (by simpa using h)]; rfl

/-- No pair is left, and none comes up. -/
theorem not_hasDollars_expandDollars (hpid : '$' ∉ pid) (text : List Char) :
    ¬ HasDollars (expandDollars pid text) := by
  fun_induction expandDollars pid text with
  | case1 => exact not_hasDollars_of_notMem (by simp)
  | case2 rest ih =>
    refine not_hasDollars_append (not_hasDollars_of_notMem hpid) ih fun hlast => ?_
    exact absurd (List.mem_of_getLast? hlast) hpid
  | case3 c rest notPair ih =>
    refine not_hasDollars_cons.mpr ⟨?_, ih⟩
    rintro rfl
    have hrest : rest.head? ≠ some '$' := by
      cases rest with
      | nil => simp
      | cons d rest =>
        rintro ⟨⟩
        exact notPair rest rfl rfl
    rwa [head?_expandDollars hrest]

/-- What comes before and after a character other than a dollar sign is expanded for itself. -/
theorem expandDollars_append_cons (hc : c ≠ '$') (text rest : List Char) :
    expandDollars pid (text ++ c :: rest) =
      expandDollars pid text ++ c :: expandDollars pid rest := by
  fun_induction expandDollars pid text with
  | case1 => exact expandDollars_cons pid hc rest
  | case2 text ih =>
    rw [List.cons_append, List.cons_append, expandDollars_pair, ih, List.append_assoc]
  | case3 d text notPair ih =>
    rw [List.cons_append, expandDollars, ih, List.cons_append]
    rintro tail rfl htail
    cases text with
    | nil => exact hc (List.cons.inj htail).1
    | cons e text =>
      obtain ⟨rfl, rfl⟩ := List.cons.inj htail
      exact notPair text rfl rfl

theorem ne_dollar_of_isBlank (h : Text.isBlank c = true) : c ≠ '$' := by
  rintro rfl
  exact absurd h (by decide)

private theorem expandDollars_append_blank {gap : List Char}
    (h : ∀ c ∈ gap, Text.isBlank c = true) (text : List Char) :
    expandDollars pid (text ++ gap) = expandDollars pid text ++ gap := by
  induction gap generalizing text with
  | nil => rw [List.append_nil, List.append_nil]
  | cons c gap ih =>
    obtain ⟨hc, hgap⟩ := List.forall_mem_cons.mp h
    have hnil := ih hgap []
    rw [expandDollars_append_cons (ne_dollar_of_isBlank hc)]
    simpa using hnil

theorem expandDollars_ne_nil (hpid : pid ≠ []) (h : text ≠ []) :
    expandDollars pid text ≠ [] := by
  fun_cases expandDollars pid text with
  | case1 => exact absurd rfl h
  | case2 rest => exact List.append_ne_nil_of_left_ne_nil hpid _
  | case3 c rest => exact List.cons_ne_nil _ _

private theorem solid_of_mem_getLast?_expandDollars (hpid : pid ≠ [])
    (solid : ∀ d ∈ pid, Text.isBlank d = false) (h : ∀ d ∈ text.getLast?, Text.isBlank d = false) :
    ∀ d ∈ (expandDollars pid text).getLast?, Text.isBlank d = false := by
  have tail {first : Char} {rest : List Char}
      (h : ∀ d ∈ (first :: rest).getLast?, Text.isBlank d = false) :
      ∀ d ∈ rest.getLast?, Text.isBlank d = false := fun d hd =>
    h d (by rw [List.getLast?_cons, Option.mem_def.mp hd]; rfl)
  fun_induction expandDollars pid text with
  | case1 => simp
  | case2 rest ih =>
    intro d hd
    rw [List.getLast?_append] at hd
    rcases Option.or_eq_some_iff.mp hd with hd | ⟨_, hd⟩
    · exact ih (tail (tail h)) d hd
    · exact solid d (List.mem_of_getLast? hd)
  | case3 c rest notPair ih =>
    by_cases hrest : rest = []
    · subst hrest
      exact h
    · rw [List.getLast?_cons_of_ne_nil (expandDollars_ne_nil hpid hrest)]
      exact ih (tail h)

/-- Blanks at the end may be taken off before or after the expansion. -/
theorem trimEnd_expandDollars (hpid : pid ≠ []) (solid : ∀ d ∈ pid, Text.isBlank d = false)
    (text : List Char) :
    Text.trimEnd (expandDollars pid text) = expandDollars pid (Text.trimEnd text) := by
  obtain ⟨gap, blank, htext⟩ := Text.exists_trimEnd_append text
  calc Text.trimEnd (expandDollars pid text)
      = Text.trimEnd (expandDollars pid (Text.trimEnd text ++ gap)) := by rw [← htext]
    _ = Text.trimEnd (expandDollars pid (Text.trimEnd text) ++ gap) := by
      rw [expandDollars_append_blank blank]
    _ = Text.trimEnd (expandDollars pid (Text.trimEnd text)) := Text.trimEnd_append blank _
    _ = expandDollars pid (Text.trimEnd text) :=
      Text.trimEnd_of_solid (solid_of_mem_getLast?_expandDollars hpid solid
        fun d hd => Text.solid_of_mem_getLast?_trimEnd hd)

/-! The process id in decimal. -/

theorem isDigit_of_mem_toString {n : Nat} (h : c ∈ (toString n).toList) :
    c.isDigit = true := by
  rw [Nat.toString_eq_repr, Nat.toList_repr] at h
  exact Nat.isDigit_of_mem_toDigits (by decide) (by decide) h

private theorem isBlank_of_isDigit (h : c.isDigit = true) : Text.isBlank c = false := by
  have hc : 48 ≤ c.toNat ∧ c.toNat ≤ 57 := by
    simpa [Char.isDigit, UInt32.le_iff_toNat_le] using h
  rw [Text.isBlank, List.any_eq_false]
  simp only [Text.blankRanges, List.forall_mem_cons, Bool.and_eq_true, decide_eq_true_eq]
  refine ⟨?_, ?_, ?_, ?_, ?_, ?_, ?_, ?_, ?_, ?_, by simp⟩ <;> omega

variable (shell : UInt32) (line : String)

theorem toList_expandPid : (expandPid shell line).toList =
    expandDollars (toString shell.toNat).toList line.toList :=
  String.toList_ofList

theorem dollar_notMem_digits : '$' ∉ (toString shell.toNat).toList :=
  fun h => absurd (isDigit_of_mem_toString h) (by decide)

theorem not_hasDollars_expandPid : ¬ HasDollars (expandPid shell line).toList := by
  rw [toList_expandPid]
  exact not_hasDollars_expandDollars (dollar_notMem_digits shell) _

theorem expandPid_eq_self {line : String} (h : ¬ HasDollars line.toList) :
    expandPid shell line = line := by
  rw [← String.toList_inj, toList_expandPid, expandDollars_eq_self h]

theorem isBlank_of_mem_digits : ∀ c ∈ (toString shell.toNat).toList, Text.isBlank c = false :=
  fun _ hm => isBlank_of_isDigit (isDigit_of_mem_toString hm)

theorem digits_ne_nil : (toString shell.toNat).toList ≠ [] := by
  rw [Nat.toString_eq_repr, Nat.toList_repr]
  exact Nat.toDigits_ne_nil

/-- A line does not become a comment by its process id. -/
theorem head?_of_head?_expandPid {line : String}
    (h : (expandPid shell line).toList.head? = some '#') : line.toList.head? = some '#' := by
  rw [toList_expandPid] at h
  exact head?_of_head?_expandDollars (digits_ne_nil shell)
    (fun hm => absurd (isDigit_of_mem_toString hm) (by decide)) h

theorem expandPid_trimEnd : expandPid shell (String.ofList (Text.trimEnd line.toList)) =
    String.ofList (Text.trimEnd (expandPid shell line).toList) := by
  rw [toList_expandPid, trimEnd_expandDollars (digits_ne_nil shell) (isBlank_of_mem_digits shell),
    expandPid, String.toList_ofList]

end JobShell
