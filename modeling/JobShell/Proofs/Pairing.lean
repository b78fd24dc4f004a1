import JobShell.Proofs.Expanding

/-!
Which dollar signs stand for the process id, told run by run. In a longest run of dollar signs every
two stand for the process id, and one is left over if their number is odd; everything else stays. A
text can be cut in two and each part be expanded for itself, unless the cut goes through a pair.
-/

namespace JobShell

/-- What comes of a run of `n` dollar signs. -/
def paired (pid : List Char) (n : Nat) : List Char :=
  (List.replicate (n / 2) pid).flatten ++ List.replicate (n % 2) '$'

/-- The text comes to `result` if each longest run of dollar signs in it is replaced for itself and
every other character is kept, in order. -/
inductive Pairs (pid : List Char) : List Char → List Char → Prop
  | plain {text : List Char} (plain : '$' ∉ text) : Pairs pid text text
  | run (front : List Char) {n : Nat} {rest result : List Char} (plain : '$' ∉ front)
      (nonempty : 0 < n) (apart : rest.head? ≠ some '$') (tail : Pairs pid rest result) :
      Pairs pid (front ++ List.replicate n '$' ++ rest) (front ++ paired pid n ++ result)

/-- The text ends in a longest run of dollar signs whose number is odd. -/
def EndsOdd (text : List Char) : Prop :=
  ∃ front n, text = front ++ List.replicate n '$' ∧ front.getLast? ≠ some '$' ∧ n % 2 = 1

variable {pid text rest result : List Char} {c : Char} {n : Nat}

private theorem paired_add_two (pid : List Char) (n : Nat) : paired pid
    (n + 2) = pid ++ paired pid n := by
  have half : (n + 2) / 2 = n / 2 + 1 := by omega
  have parity : (n + 2) % 2 = n % 2 := by omega
  rw [paired, half, parity, List.replicate_succ, List.flatten_cons, List.append_assoc, paired]

private theorem expandDollars_lone (apart : rest.head? ≠ some '$') :
    expandDollars pid ('$' :: rest) = '$' :: expandDollars pid rest := by
  rw [expandDollars.eq_3]
  rintro tail - rfl
  exact apart rfl

/-- A run of dollar signs is paired from the left, and what follows it is expanded for itself. -/
theorem expandDollars_run (apart : n % 2 = 0 ∨ rest.head? ≠ some '$') :
    expandDollars pid (List.replicate n '$' ++ rest) = paired pid n ++ expandDollars pid rest := by
  induction n using Nat.twoStepInduction with
  | zero => rfl
  | one => exact expandDollars_lone (apart.resolve_left (by decide))
  | more n ih =>
    have later := ih (apart.imp_left fun even => by omega)
    rw [List.replicate_succ, List.replicate_succ, List.cons_append, List.cons_append,
      expandDollars_pair, later, paired_add_two, List.append_assoc]

/-- What does not end in a dollar sign is expanded for itself. -/
theorem expandDollars_append_of_getLast? (apart : text.getLast? ≠ some '$') (rest : List Char) :
    expandDollars pid (text ++ rest) = expandDollars pid text ++ expandDollars pid rest := by
  rcases List.eq_nil_or_concat' text with rfl | ⟨front, c, rfl⟩
  · rfl
  · have hc : c ≠ '$' := by simpa using apart
    have alone : expandDollars pid (front ++ [c]) = expandDollars pid front ++ [c] :=
      expandDollars_append_cons hc front []
    rw [List.append_assoc, List.singleton_append, expandDollars_append_cons hc, alone]
    simp

private theorem exists_run_at_end (text : List Char) :
    ∃ front n, text = front ++ List.replicate n '$' ∧ front.getLast? ≠ some '$' := by
  induction text using List.reverseRecOn with
  | nil => exact ⟨[], 0, rfl, by simp⟩
  | append_singleton text c ih =>
    by_cases hc : c = '$'
    · obtain ⟨front, n, rfl, hlast⟩ := ih
      exact ⟨front, n + 1, by rw [hc, List.replicate_succ', List.append_assoc], hlast⟩
    · exact ⟨text ++ [c], 0, by simp, by simpa using hc⟩

/-- A cut that goes through no pair leaves the expansion as it is. -/
theorem expandDollars_append (whole : ¬ (EndsOdd text ∧ rest.head? = some '$')) :
    expandDollars pid (text ++ rest) = expandDollars pid text ++ expandDollars pid rest := by
  obtain ⟨front, n, rfl, hlast⟩ := exists_run_at_end text
  have apart : n % 2 = 0 ∨ rest.head? ≠ some '$' := by
    by_contra hnot
    obtain ⟨odd, hhead⟩ := not_or.mp hnot
    exact whole ⟨⟨front, n, rfl, hlast, by omega⟩, by simpa using hhead⟩
  have alone : expandDollars pid (List.replicate n '$') = paired pid n := by
    have apart : n % 2 = 0 ∨ ([] : List Char).head? ≠ some '$' := .inr (by simp)
    simpa using expandDollars_run apart
  rw [List.append_assoc, expandDollars_append_of_getLast? hlast, expandDollars_run apart,
    expandDollars_append_of_getLast? hlast, alone, List.append_assoc]

private theorem expandDollars_append_ne (hpid : pid ≠ []) (foreign : '$' ∉ pid)
    (odd : EndsOdd text) (rest : List Char) :
    expandDollars pid (text ++ '$' :: rest) ≠
      expandDollars pid text ++ expandDollars pid ('$' :: rest) := by
  obtain ⟨front, n, rfl, hlast, hodd⟩ := odd
  obtain ⟨half, rfl⟩ : ∃ half, n = half + half + 1 := ⟨n / 2, by omega⟩
  have even : (half + half) % 2 = 0 := by omega
  have together : front ++ List.replicate (half + half + 1) '$' ++ '$' :: rest =
      front ++ (List.replicate (half + half) '$' ++ '$' :: '$' :: rest) := by
    simp [List.replicate_succ']
  have left : front ++ List.replicate (half + half + 1) '$' =
      front ++ (List.replicate (half + half) '$' ++ ['$']) := by
    rw [List.replicate_succ']
  rw [together, left, expandDollars_append_of_getLast? hlast, expandDollars_run (.inl even),
    expandDollars_append_of_getLast? hlast, expandDollars_run (.inl even), expandDollars_pair,
    List.append_assoc, List.append_assoc]
  intro same
  have tails := List.append_cancel_left (List.append_cancel_left same)
  cases pid with
  | nil => exact hpid rfl
  | cons first digits =>
    obtain ⟨rfl, -⟩ := List.cons.inj tails
    exact foreign List.mem_cons_self

private theorem exists_pairs (pid text : List Char) : ∃ result, Pairs pid text result := by
  induction text with
  | nil => exact ⟨[], .plain (by simp)⟩
  | cons c text ih =>
    obtain ⟨result, pairs⟩ := ih
    by_cases hc : c = '$'
    · -- The dollar sign begins the first run, or is one by itself.
      subst hc
      cases pairs with
      | plain plain =>
        have apart : text.head? ≠ some '$' := fun h => plain (List.mem_of_mem_head? h)
        exact ⟨_, .run [] (n := 1) (by simp) (by decide) apart (.plain plain)⟩
      | @run front n rest result plain nonempty apart tail =>
        cases front with
        | nil => exact ⟨_, .run [] (n := n + 1) (by simp) (by omega) apart tail⟩
        | cons d front =>
          have hd : d ≠ '$' := fun h => plain (h ▸ List.mem_cons_self)
          exact ⟨_, .run [] (n := 1) (by simp) (by decide) (by simpa using hd)
            (.run _ plain nonempty apart tail)⟩
    · have extend {front : List Char} (plain : '$' ∉ front) : '$' ∉ c :: front := by
        simpa [Ne.symm hc] using plain
      cases pairs with
      | plain plain => exact ⟨_, .plain (extend plain)⟩
      | run front plain nonempty apart tail =>
        exact ⟨_, .run (c :: front) (extend plain) nonempty apart tail⟩

private theorem Pairs.expandDollars_eq (h : Pairs pid text result) :
    expandDollars pid text = result := by
  induction h with
  | plain plain => exact expandDollars_eq_self (not_hasDollars_of_notMem plain)
  | run front plain nonempty apart tail ih =>
    have hlast : front.getLast? ≠ some '$' := fun h => plain (List.mem_of_getLast? h)
    rw [List.append_assoc, expandDollars_append_of_getLast? hlast,
      expandDollars_eq_self (not_hasDollars_of_notMem plain), expandDollars_run (.inr apart), ih,
      List.append_assoc]

/-- To expand a text is to replace its longest runs of dollar signs, each for itself. -/
theorem pairs_iff_expandDollars_eq : Pairs pid text result ↔ expandDollars pid text = result := by
  refine ⟨Pairs.expandDollars_eq, ?_⟩
  rintro rfl
  obtain ⟨result, pairs⟩ := exists_pairs pid text
  exact pairs.expandDollars_eq ▸ pairs

/-- The process id is put in run by run: each longest run of dollar signs is replaced for itself, by
the decimal process id for every two and one dollar sign if one is left over, and nothing else
changes. So no two dollar signs are left in a row, there is nothing left to expand, and two parts of
a text can be expanded apart exactly if no pair is torn. -/
theorem expandPid_run_by_run (pid : UInt32) :
    (∀ text result : String, expandPid pid text = result ↔
      Pairs (toString pid.toNat).toList text.toList result.toList) ∧
    (∀ text, ¬ HasDollars (expandPid pid text).toList) ∧
    (∀ text other, expandPid other (expandPid pid text) = expandPid pid text) ∧
    ∀ text rest, expandPid pid (text ++ rest) = expandPid pid text ++ expandPid pid rest ↔
      ¬ (EndsOdd text.toList ∧ rest.toList.head? = some '$') := by
  refine ⟨fun text result => ?_, not_hasDollars_expandPid pid, fun text other => ?_,
    fun text rest => ?_⟩
  · rw [pairs_iff_expandDollars_eq, ← String.toList_inj, toList_expandPid]
  · exact expandPid_eq_self other (not_hasDollars_expandPid pid text)
  · rw [← String.toList_inj, String.toList_append, toList_expandPid, toList_expandPid,
      toList_expandPid, String.toList_append]
    refine ⟨?_, expandDollars_append⟩
    rintro same ⟨odd, hhead⟩
    obtain ⟨tail, htail⟩ := List.head?_eq_some_iff.mp hhead
    rw [htail] at same
    exact expandDollars_append_ne (digits_ne_nil pid) (dollar_notMem_digits pid) odd tail same

example : expandPid 7 "$$$ a$ $$$$$$b" = "7$ a$ 777b" := by decide +kernel

end JobShell
