import JobShell.Files.Store
import JobShell.Proofs.Splitting

/-!
Where directories are. In a proper tree the path of a directory leads from the root to the
directory, so a relative path means the same as the path that it is joined to.
-/

namespace JobShell

/-- What an entry of a directory may be called. -/
structure IsName (name : String) : Prop where
  nonempty : name ≠ ""
  noSlash : '/' ∉ name.toList
  noNul : '\x00' ∉ name.toList
  notHere : name ≠ "."
  notUp : name ≠ ".."
  short : name.utf8ByteSize ≤ maxNameBytes

namespace FileSystem

/-- A tree as a system keeps it: the entries of a directory have different names, all of them are
names, and no link has a NUL in its target. -/
structure Proper (fs : FileSystem) : Prop where
  distinct : ∀ id d, fs.directory? id = some d → (d.entries.map (·.1)).Nodup
  named : ∀ id d, fs.directory? id = some d → ∀ entry ∈ d.entries, IsName entry.1
  links : ∀ id target, fs.get? id = some (.link target) → '\x00' ∉ target.toList

/-- The names lead from the root to the directory, each from a directory to one below it. -/
inductive Chain (fs : FileSystem) : List String → NodeId → Prop
  | root : Chain fs [] root
  | step {names : List String} {parent id : NodeId} {name : String} (chain : Chain fs names parent)
      (named : fs.nameOf? id = some (parent, name)) : Chain fs (names ++ [name]) id

/-- The first directory is on the way from the root to the second. -/
inductive Above (fs : FileSystem) : NodeId → NodeId → Prop
  | parent {id parent : NodeId} {name : String} (named : fs.nameOf? id = some (parent, name)) :
      Above fs parent id
  | higher {dir id parent : NodeId} {name : String} (named : fs.nameOf? id = some (parent, name))
      (above : Above fs dir parent) : Above fs dir id

variable {fs : FileSystem} {id parent : NodeId} {name : String} {names rest : List String}

theorem directory?_eq_some {d : Directory} :
    fs.directory? id = some d ↔ fs.get? id = some (.directory d) := by
  unfold directory?
  split
  · next d' hd => rw [hd]; simp
  · next other => exact ⟨(fun h => nomatch h), fun h => absurd h (other d)⟩

theorem grants_directory {d : Directory} (h : fs.directory? id = some d)
    (permission : Permission) : fs.grants id permission = d.grants permission := by
  rw [grants, directory?_eq_some.mp h]
  rfl

theorem nameOf?_eq_some (h : fs.nameOf? id = some (parent, name)) :
    (∃ d, fs.directory? id = some d ∧ d.parent = parent) ∧
      ∃ p, fs.directory? parent = some p ∧ (name, id) ∈ p.entries := by
  unfold nameOf? at h
  split at h
  · next d hd =>
    split at h
    · next p hp =>
      obtain ⟨entry, hfind, hentry⟩ := Option.map_eq_some_iff.mp h
      obtain ⟨rfl, rfl⟩ := Prod.mk.inj hentry
      have hid : entry.2 = id := by simpa using List.find?_some hfind
      exact ⟨⟨d, hd, rfl⟩, p, hp, hid ▸ List.mem_of_find?_eq_some hfind⟩
    · cases h
  · cases h

theorem climb_root (fuel : Nat) (names : List String) : fs.climb fuel root names = some names := by
  unfold climb
  rw [if_pos rfl]

theorem climb_succ (notRoot : id ≠ root) (fuel : Nat) (names : List String) :
    fs.climb (fuel + 1) id names =
      (fs.nameOf? id).bind fun (parent, name) => fs.climb fuel parent (name :: names) := by
  rw [climb, if_neg notRoot]
  cases fs.nameOf? id <;> rfl

private theorem climb_zero (notRoot : id ≠ root) (names : List String) :
    fs.climb 0 id names = none := by
  rw [climb, if_neg notRoot]

private theorem chain_of_climb {fuel : Nat} {found : List String}
    (h : fs.climb fuel id rest = some found) :
    ∃ names, found = names ++ rest ∧ fs.Chain names id := by
  induction fuel generalizing id rest with
  | zero =>
    by_cases top : id = root
    · subst top
      exact ⟨[], (Option.some.inj ((climb_root 0 rest).symm.trans h)).symm, .root⟩
    · cases (climb_zero top rest).symm.trans h
  | succ fuel ih =>
    by_cases top : id = root
    · subst top
      exact ⟨[], (Option.some.inj ((climb_root _ rest).symm.trans h)).symm, .root⟩
    · rw [climb_succ top] at h
      obtain ⟨⟨parent, name⟩, named, h⟩ := Option.bind_eq_some_iff.mp h
      obtain ⟨names, rfl, chain⟩ := ih h
      exact ⟨names ++ [name], by simp, .step chain named⟩

/-- What is found in some steps is found in more, also in a tree where the directories on the way
have the same names. -/
theorem climb_mono {later : FileSystem} {fuel : Nat} {found : List String}
    (keeps : ∀ id place, fs.nameOf? id = some place → later.nameOf? id = some place)
    (h : fs.climb fuel id rest = some found) (more : Nat) :
    later.climb (fuel + more) id rest = some found := by
  induction fuel generalizing id rest with
  | zero =>
    by_cases top : id = root
    · subst top
      rwa [climb_root] at h ⊢
    · cases (climb_zero top rest).symm.trans h
  | succ fuel ih =>
    by_cases top : id = root
    · subst top
      rwa [climb_root] at h ⊢
    · rw [climb_succ top] at h
      rw [Nat.succ_add, climb_succ top]
      obtain ⟨⟨parent, name⟩, named, h⟩ := Option.bind_eq_some_iff.mp h
      exact Option.bind_eq_some_iff.mpr ⟨(parent, name), keeps id _ named, ih h⟩

theorem chain_of_pathOf? {path : String} (h : fs.pathOf? id = some path) :
    ∃ names, path = pathOfNames names ∧ fs.Chain names id := by
  obtain ⟨found, hclimb, rfl⟩ := Option.map_eq_some_iff.mp h
  obtain ⟨names, rfl, chain⟩ := chain_of_climb hclimb
  exact ⟨names, by rw [List.append_nil], chain⟩

theorem Chain.isName (h : fs.Chain names id) (proper : fs.Proper) (hm : name ∈ names) :
    IsName name := by
  induction h with
  | root => cases hm
  | step chain named ih =>
    rcases List.mem_append.mp hm with hm | hm
    · exact ih hm
    · obtain rfl := List.mem_singleton.mp hm
      obtain ⟨-, p, hp, entry⟩ := nameOf?_eq_some named
      exact proper.named _ p hp _ entry

theorem lookup_of_mem {entries : List (String × NodeId)} (distinct : (entries.map (·.1)).Nodup)
    (hm : (name, id) ∈ entries) : entries.lookup name = some id := by
  induction entries with
  | nil => cases hm
  | cons entry entries ih =>
    obtain ⟨notMem, distinct⟩ := List.nodup_cons.mp distinct
    rcases List.mem_cons.mp hm with rfl | hm
    · exact List.lookup_cons_self
    · have ne : (name == entry.1) = false := by
        refine beq_false_of_ne ?_
        rintro rfl
        exact notMem (List.mem_map.mpr ⟨_, hm, rfl⟩)
      rw [List.lookup_cons, ne]
      exact ih distinct hm

private theorem walk_directory (proper : fs.Proper) (named : fs.nameOf? id = some (parent, name))
    (follow : Bool) (links : Nat) (more : rest ≠ []) :
    fs.walk follow links parent (name :: rest) =
      if fs.grants parent .execute then fs.walk follow links id rest else .error .denied := by
  obtain ⟨⟨d, hd, -⟩, p, hp, entry⟩ := nameOf?_eq_some named
  have isName := proper.named parent p hp _ entry
  have found := lookup_of_mem (proper.distinct parent p hp) entry
  rw [walk_cons, grants_directory hp]
  simp only [hp, isName.notHere, isName.notUp, Nat.not_lt.mpr isName.short, found, if_false, more,
    directory?_eq_some.mp hd]
  cases p.grants .execute <;> rfl

/-- A walk along the names of a directory comes to the directory, unless one above it may not be
searched. -/
theorem walk_of_chain (h : fs.Chain names id) (proper : fs.Proper) (follow : Bool) (links : Nat)
    (more : rest ≠ []) :
    fs.walk follow links root (names ++ rest) = fs.walk follow links id rest ∨
      fs.walk follow links root (names ++ rest) = .error .denied ∧
        ∃ dir, fs.Above dir id ∧ fs.grants dir .execute = false := by
  induction h generalizing rest with
  | root => exact .inl rfl
  | @step names parent id name chain named ih =>
    rw [List.append_assoc]
    rcases ih (List.cons_ne_nil name rest) with walked | ⟨denied, dir, above, refuses⟩
    · rw [List.singleton_append, walked, walk_directory proper named follow links more]
      split
      · exact .inl rfl
      · next refuses => exact .inr ⟨rfl, parent, .parent named, by simpa using refuses⟩
    · exact .inr ⟨denied, dir, .higher named above, refuses⟩

end FileSystem

/-! Paths as text. -/

theorem toList_pathOfNames {names : List String} (nonempty : names ≠ []) :
    (FileSystem.pathOfNames names).toList = names.flatMap fun name => '/' :: name.toList := by
  rw [FileSystem.pathOfNames, String.toList_append]
  induction names with
  | nil => exact absurd rfl nonempty
  | cons name names ih =>
    cases names with
    | nil => simp
    | cons next names =>
      rw [List.flatMap_cons, ← ih (by simp), String.intercalate_cons_cons]
      simp

private theorem getLast?_pathOfNames {names : List String}
    (isName : ∀ name ∈ names, IsName name) (nonempty : names ≠ []) :
    (FileSystem.pathOfNames names).toList.getLast? ≠ some '/' := by
  rw [toList_pathOfNames nonempty]
  obtain ⟨front, last, rfl⟩ := List.eq_nil_or_concat names |>.resolve_left nonempty
  have lastName := isName last (by simp)
  rw [List.concat_eq_append, List.flatMap_append, List.flatMap_singleton, List.getLast?_append,
    List.getLast?_cons_of_ne_nil (by simpa using lastName.nonempty)]
  intro h
  rcases Option.or_eq_some_iff.mp h with h | ⟨h, -⟩
  · exact lastName.noSlash (List.mem_of_getLast? h)
  · exact lastName.nonempty (by simpa using h)

private theorem toList_joinPath {names : List String} {path : String}
    (isName : ∀ name ∈ names, IsName name) (relative : isAbsolute path = false) :
    (joinPath (FileSystem.pathOfNames names) path).toList =
      (names.flatMap fun name => '/' :: name.toList) ++ '/' :: path.toList := by
  have absolute : (FileSystem.pathOfNames names).isEmpty = false := by
    simp [FileSystem.pathOfNames]
  rw [joinPath, relative, absolute]
  by_cases nonempty : names = []
  · subst nonempty
    have slash : (FileSystem.pathOfNames []).toList = ['/'] := by decide
    simp [slash]
  · rw [if_neg (by simp), if_neg (by simpa using getLast?_pathOfNames isName nonempty),
      String.toList_append, String.toList_append, toList_pathOfNames nonempty]
    simp

theorem isAbsolute_joinPath {names : List String} {path : String}
    (isName : ∀ name ∈ names, IsName name) (relative : isAbsolute path = false) :
    isAbsolute (joinPath (FileSystem.pathOfNames names) path) = true := by
  rw [isAbsolute, toList_joinPath isName relative]
  cases names <;> simp

private theorem nul_notMem_names {names : List String} (isName : ∀ name ∈ names, IsName name) :
    '\x00' ∉ names.flatMap fun name => '/' :: name.toList := by
  intro hm
  obtain ⟨name, hname, hm⟩ := List.mem_flatMap.mp hm
  rcases List.mem_cons.mp hm with hm | hm
  · exact absurd hm (by decide)
  · exact (isName name hname).noNul hm

theorem nul_mem_joinPath {names : List String} {path : String}
    (isName : ∀ name ∈ names, IsName name) (relative : isAbsolute path = false) :
    '\x00' ∈ (joinPath (FileSystem.pathOfNames names) path).toList ↔ '\x00' ∈ path.toList := by
  have slash : '\x00' ≠ '/' := by decide
  rw [toList_joinPath isName relative]
  simp [nul_notMem_names isName, slash]

theorem nul_notMem_pathOfNames {names : List String} (isName : ∀ name ∈ names, IsName name) :
    '\x00' ∉ (FileSystem.pathOfNames names).toList := by
  by_cases nonempty : names = []
  · subst nonempty
    decide
  · rw [toList_pathOfNames nonempty]
    exact nul_notMem_names isName

theorem runs_ne_nil_of_relative {path : String} (relative : isAbsolute path = false)
    (nonempty : path ≠ "") : Text.runs (· == '/') path.toList ≠ [] := by
  intro none
  have nonempty : path.toList ≠ [] := by simpa using nonempty
  rw [isAbsolute] at relative
  have split := Text.splits_iff_runs_eq.mpr none
  generalize path.toList = text at relative nonempty split
  cases split with
  | gap separates =>
    cases text with
    | nil => exact nonempty rfl
    | cons c rest =>
      have slash : c = '/' := by simpa using separates c List.mem_cons_self
      simp [slash] at relative

/-- What is between the slashes of the path of a directory. -/
theorem runs_names {names : List String} (isName : ∀ name ∈ names, IsName name) :
    Text.runs (· == '/') (names.flatMap fun name => '/' :: name.toList) =
      names.map String.toList := by
  have split : Text.Splits (· == '/') ((names.map String.toList).flatMap ('/' :: ·))
      (names.map String.toList) := by
    refine Text.splits_flatMap rfl fun word hm => ?_
    obtain ⟨name, hname, rfl⟩ := List.mem_map.mp hm
    refine ⟨by simpa using (isName name hname).nonempty, fun c hc => beq_false_of_ne ?_⟩
    rintro rfl
    exact (isName name hname).noSlash hc
  rw [List.flatMap_map] at split
  exact Text.splits_iff_runs_eq.mp split

theorem runs_joinPath {names : List String} {path : String}
    (isName : ∀ name ∈ names, IsName name) (relative : isAbsolute path = false) :
    Text.runs (· == '/') (joinPath (FileSystem.pathOfNames names) path).toList =
      names.map String.toList ++ Text.runs (· == '/') path.toList := by
  rw [toList_joinPath isName relative, Text.runs_append_cons rfl, runs_names isName]

private theorem pathNames_joinPath {names : List String} {path : String}
    (isName : ∀ name ∈ names, IsName name) (relative : isAbsolute path = false)
    (nonempty : path ≠ "") :
    pathNames (joinPath (FileSystem.pathOfNames names) path) = names ++ pathNames path := by
  have chars := toList_joinPath isName relative
  have ends : endsWithSlash (joinPath (FileSystem.pathOfNames names) path) = endsWithSlash path := by
    rw [endsWithSlash, chars, List.getLast?_append,
      List.getLast?_cons_of_ne_nil (by simpa using nonempty), endsWithSlash]
    cases h : path.toList.getLast? with
    | none => simp [nonempty] at h
    | some last => rfl
  have runs := runs_joinPath isName relative
  have some := runs_ne_nil_of_relative relative nonempty
  have parts : (names.map String.toList).map String.ofList = names := by
    simp [Function.comp_def]
  rw [pathNames, pathNames, ends, runs, List.map_append, parts]
  have left : (names ++ (Text.runs (· == '/') path.toList).map String.ofList).isEmpty = false := by
    simp [some]
  have right : ((Text.runs (· == '/') path.toList).map String.ofList).isEmpty = false := by
    simp [some]
  simp only [left, right, Bool.not_false, Bool.and_true]
  split
  · rw [List.append_assoc]
  · rfl

private theorem pathNames_ne_nil {path : String} (relative : isAbsolute path = false)
    (nonempty : path ≠ "") : pathNames path ≠ [] := by
  have some := runs_ne_nil_of_relative relative nonempty
  rw [pathNames]
  split <;> simp [some]

namespace FileSystem
variable {fs : FileSystem} {cwd : NodeId} {dir path : String}

/-- To follow a relative path from a directory is to follow the path that it makes with the path of
the directory, unless a directory above may not be searched. -/
theorem walk_joinPath (proper : fs.Proper) (here : fs.pathOf? cwd = some dir)
    (relative : isAbsolute path = false) (nonempty : path ≠ "") (follow : Bool) (links : Nat) :
    fs.walk follow links root (pathNames (joinPath dir path)) =
        fs.walk follow links cwd (pathNames path) ∨
      fs.walk follow links root (pathNames (joinPath dir path)) = .error .denied ∧
        ∃ above, fs.Above above cwd ∧ fs.grants above .execute = false := by
  obtain ⟨names, rfl, chain⟩ := chain_of_pathOf? here
  rw [pathNames_joinPath (fun name hm => chain.isName proper hm) relative nonempty]
  exact walk_of_chain chain proper follow links (pathNames_ne_nil relative nonempty)

/-- The two paths lead to the same place, if the longer one is not too long and the directories above
may be searched. -/
theorem locate_joinPath (proper : fs.Proper) (here : fs.pathOf? cwd = some dir)
    (relative : isAbsolute path = false) (nonempty : path ≠ "")
    (short : (joinPath dir path).utf8ByteSize < maxPathBytes)
    (searchable : ∀ above, fs.Above above cwd → fs.grants above .execute = true) (follow : Bool)
    (start : NodeId) :
    fs.locate start (joinPath dir path) follow = fs.locate cwd path follow := by
  have walks : fs.walk follow maxLinks root (pathNames (joinPath dir path)) =
      fs.walk follow maxLinks cwd (pathNames path) := by
    rcases walk_joinPath proper here relative nonempty follow maxLinks with
      walks | ⟨-, above, isAbove, refuses⟩
    · exact walks
    · cases (searchable above isAbove).symm.trans refuses
  obtain ⟨names, rfl, chain⟩ := chain_of_pathOf? here
  have isName : ∀ name ∈ names, IsName name := fun name hm => chain.isName proper hm
  have absolute := isAbsolute_joinPath isName relative
  have nul : (joinPath (pathOfNames names) path).toList.contains '\x00' =
      path.toList.contains '\x00' := by
    rw [Bool.eq_iff_iff, List.contains_iff_mem, List.contains_iff_mem]
    exact nul_mem_joinPath isName relative
  have longer : path.utf8ByteSize ≤ (joinPath (pathOfNames names) path).utf8ByteSize := by
    unfold joinPath
    split_ifs
    · exact Nat.le_refl _
    · rw [String.utf8ByteSize_append]
      exact Nat.le_add_left _ _
    · rw [String.utf8ByteSize_append]
      exact Nat.le_add_left _ _
  have some : joinPath (pathOfNames names) path ≠ "" := by
    intro none
    simp [none, isAbsolute] at absolute
  have fits : path.utf8ByteSize < maxPathBytes := Nat.lt_of_le_of_lt longer short
  simp only [locate, some, nonempty, nul, absolute, relative, walks, Nat.not_le.mpr short,
    Nat.not_le.mpr fits, if_false, if_true, Bool.false_eq_true]

end FileSystem

end JobShell
