import JobShell.Proofs.Directories
import JobShell.Proofs.Following

/-!
How changes of directory compose. `cd` resolves its word against the path on record, which has no
links, and follows it from the root; so to change along a path in two parts comes to the same as to
follow it at once, also where links and `..` are on the way.
-/

namespace JobShell

/-! Paths as text. -/

private theorem pathParts_append (path rest : String) :
    pathParts (path ++ "/" ++ rest) = pathParts path ++ pathParts rest := by
  have chars : (path ++ "/" ++ rest).toList = path.toList ++ '/' :: rest.toList := by simp
  rw [pathParts, chars, Text.runs_append_cons rfl, List.map_append]
  rfl

private theorem pathParts_joinPath {names : List String} {path : String}
    (isName : ∀ name ∈ names, IsName name) (relative : isAbsolute path = false) :
    pathParts (joinPath (FileSystem.pathOfNames names) path) = names ++ pathParts path := by
  rw [pathParts, runs_joinPath isName relative, List.map_append, List.map_map]
  simp [pathParts, Function.comp_def]

private theorem pathParts_pathOfNames {names : List String} (isName : ∀ name ∈ names, IsName name) :
    pathParts (FileSystem.pathOfNames names) = names := by
  by_cases nonempty : names = []
  · subst nonempty
    decide
  · rw [pathParts, toList_pathOfNames nonempty, runs_names isName, List.map_map]
    simp [Function.comp_def]

theorem IsName.pathParts {name : String} (h : IsName name) : pathParts name = [name] := by
  have solid : ∀ c ∈ name.toList, (c == '/') = false := by
    intro c hc
    refine beq_false_of_ne ?_
    rintro rfl
    exact h.noSlash hc
  rw [JobShell.pathParts, Text.runs_of_solid (by simpa using h.nonempty) solid]
  simp

theorem IsName.relative {name : String} (h : IsName name) : isAbsolute name = false := by
  refine beq_false_of_ne fun slash => h.noSlash ?_
  exact List.mem_of_head? slash

private theorem pathParts_ne_nil {path : String} (relative : isAbsolute path = false)
    (nonempty : path ≠ "") : pathParts path ≠ [] := by
  simpa [pathParts] using runs_ne_nil_of_relative relative nonempty

private theorem isAbsolute_append {path : String} (nonempty : path ≠ "") (rest : String) :
    isAbsolute (path ++ "/" ++ rest) = isAbsolute path := by
  have chars : path.toList ≠ [] := by simpa using nonempty
  obtain ⟨first, others, split⟩ := List.exists_cons_of_ne_nil chars
  simp [isAbsolute, split]

private theorem joinPath_append (dir : String) {path : String} (nonempty : path ≠ "")
    (rest : String) : joinPath dir (path ++ "/" ++ rest) = joinPath dir path ++ "/" ++ rest := by
  rw [joinPath, joinPath, isAbsolute_append nonempty]
  split_ifs <;> simp [String.append_assoc]

private theorem exists_pathOfNames_concat (names : List String) (name : String) :
    ∃ rest, FileSystem.pathOfNames (names ++ [name]) = FileSystem.pathOfNames names ++ rest := by
  by_cases nonempty : names = []
  · subst nonempty
    exact ⟨name, by simp [FileSystem.pathOfNames]⟩
  · refine ⟨"/" ++ name, String.toList_inj.mp ?_⟩
    rw [toList_pathOfNames (by simp), String.toList_append, toList_pathOfNames nonempty]
    simp

private theorem utf8ByteSize_dropLast (names : List String) :
    (FileSystem.pathOfNames names.dropLast).utf8ByteSize ≤
      (FileSystem.pathOfNames names).utf8ByteSize := by
  rcases List.eq_nil_or_concat names with rfl | ⟨front, last, rfl⟩
  · exact Nat.le_refl _
  · obtain ⟨rest, split⟩ := exists_pathOfNames_concat front last
    rw [List.concat_eq_append, List.dropLast_concat, split, String.utf8ByteSize_append]
    exact Nat.le_add_right _ _

namespace FileSystem

/-- The limits of the system do not keep anybody from going along the absolute path: there are not too
many links on the way, and the path of where it leads, without links, is not too long. -/
structure WithinLimits (fs : FileSystem) (path : String) : Prop where
  links : fs.destination maxLinks root (pathNames path) ≠ .error .tooManyLinks
  length : ∀ id own, fs.destination maxLinks root (pathNames path) = .ok (some id) →
    fs.pathOf? id = some own → own.utf8ByteSize < maxPathBytes

variable {fs : FileSystem} {id : NodeId} {d : Directory} {path : String} {names : List String}
  {n : Nat}

theorem WithinLimits.le (h : fs.WithinLimits path) (enterable : fs.Enterable id)
    (follows : fs.Follows root (pathParts path) n id) : n ≤ maxLinks := by
  by_contra more
  refine h.links ?_
  rw [destination_of_follows ((follows_pathNames enterable).mpr follows), if_neg more]

theorem WithinLimits.short (h : fs.WithinLimits path) (rooted : fs.Rooted)
    (enterable : fs.Enterable id) (follows : fs.Follows root (pathParts path) n id)
    (way : fs.Way names id) : (pathOfNames names).utf8ByteSize < maxPathBytes := by
  refine h.length id _ ?_ (way.chain.pathOf? rooted)
  rw [destination_of_follows ((follows_pathNames enterable).mpr follows),
    if_pos (h.le enterable follows)]

/-- Above a directory that can be entered there is one that can be entered. -/
theorem Way.up (rooted : fs.Rooted) (h : fs.Way names id) (enterable : fs.Enterable id)
    (directory : fs.directory? id = some d) :
    fs.Way names.dropLast d.parent ∧ fs.Enterable d.parent := by
  cases h with
  | root =>
    obtain ⟨top, htop, parent⟩ := rooted.top
    obtain rfl := Option.some.inj (htop.symm.trans directory)
    rw [parent]
    exact ⟨.root, enterable⟩
  | step above searchable named =>
    obtain ⟨⟨d', hd', parent⟩, p, hp, -⟩ := nameOf?_eq_some named
    obtain rfl := Option.some.inj (directory.symm.trans hd')
    rw [parent, List.dropLast_concat]
    exact ⟨above, p, hp, (grants_directory hp _).symm.trans searchable⟩

end FileSystem

namespace Session

/-- `cd` with this word leads from one session to the other: the word, resolved against the directory
on record, leads to a directory, and the process and the record change to it. -/
def ChangesTo (s : Session) (word : String) (t : Session) : Prop :=
  word ≠ "" ∧ ∃ id canonical,
    s.machine.store.files.LeadsTo s.machine.cwd (s.shell.env.resolve word) id canonical ∧
      t = { s with machine.cwd := id, shell.env.currentDir := canonical }

/-- The process is in this directory, and these names are on record for it. -/
def movedTo (s : Session) (id : NodeId) (names : List String) : Session :=
  { s with machine.cwd := id, shell.env.currentDir := FileSystem.pathOfNames names }

/-- The word leads to this directory, and these are the names on the way to it from the root. -/
structure Arrives (s : Session) (word : String) (id : NodeId) (names : List String) : Prop where
  nonempty : word ≠ ""
  noNul : '\x00' ∉ word.toList
  follows : ∃ n ≤ maxLinks, s.machine.store.files.Follows FileSystem.root
    (pathParts (s.shell.env.resolve word)) n id
  enterable : s.machine.store.files.Enterable id
  way : s.machine.store.files.Way names id
  short : (FileSystem.pathOfNames names).utf8ByteSize < maxPathBytes

variable {s t u : Session} {word first rest : String} {id mid : NodeId} {d : Directory}
  {names front : List String}

private theorem follows_movedTo (rooted : s.machine.store.files.Rooted)
    (way : s.machine.store.files.Way names id) (word : String) {n : Nat} {there : NodeId} :
    s.machine.store.files.Follows FileSystem.root
        (pathParts ((s.movedTo id names).shell.env.resolve word)) n there ↔
      s.machine.store.files.Follows (if isAbsolute word then FileSystem.root else id)
        (pathParts word) n there := by
  by_cases absolute : isAbsolute word = true
  · rw [Environment.resolve_of_isAbsolute _ absolute, if_pos absolute]
  · have isName (name : String) (hm : name ∈ names) : IsName name :=
      way.chain.isName rooted.toProper hm
    rw [if_neg absolute]
    change s.machine.store.files.Follows FileSystem.root
      (pathParts (joinPath (FileSystem.pathOfNames names) word)) n there ↔ _
    rw [pathParts_joinPath isName (Bool.eq_false_of_not_eq_true absolute),
      way.chain.follows_iff rooted, and_iff_right way]

private theorem resolve_append (env : Environment) (nonempty : first ≠ "") (rest : String) :
    pathParts (env.resolve (first ++ "/" ++ rest)) =
      pathParts (env.resolve first) ++ pathParts rest := by
  rw [Environment.resolve, joinPath_append _ nonempty, pathParts_append]
  rfl

/-- On the way along a path there is a directory where its first part leads. -/
theorem Arrives.split (rooted : s.machine.store.files.Rooted)
    (h : s.Arrives (first ++ "/" ++ rest) id names) (nonempty : first ≠ "") (more : rest ≠ "")
    (relative : isAbsolute rest = false)
    (limits : s.machine.store.files.WithinLimits (s.shell.env.resolve first)) :
    ∃ mid front, s.Arrives first mid front ∧ (s.movedTo mid front).Arrives rest id names := by
  obtain ⟨n, bound, follows⟩ := h.follows
  rw [resolve_append _ nonempty, FileSystem.follows_append] at follows
  obtain ⟨mid, k, m, before, after, rfl⟩ := follows
  have enterable : s.machine.store.files.Enterable mid := by
    obtain ⟨part, parts, split⟩ := List.exists_cons_of_ne_nil (pathParts_ne_nil relative more)
    exact (split ▸ after).enterable
  obtain ⟨front, way⟩ := before.way rooted .root (enterable.imp fun _ => And.left)
  refine ⟨mid, front, ⟨nonempty, fun hm => h.noNul (by simp [hm]),
    ⟨k, Nat.le_trans (Nat.le_add_right k m) bound, before⟩, enterable, way,
    limits.short rooted enterable before way⟩, more, fun hm => h.noNul (by simp [hm]),
    ⟨m, Nat.le_trans (Nat.le_add_left m k) bound, ?_⟩, h.enterable, h.way, h.short⟩
  refine (follows_movedTo rooted way rest).mpr ?_
  rwa [relative]

/-- From where the first part of a path leads, the rest leads where the whole path does. -/
theorem Arrives.append (rooted : s.machine.store.files.Rooted) (h : s.Arrives first mid front)
    (next : (s.movedTo mid front).Arrives rest id names) (relative : isAbsolute rest = false)
    (limits : s.machine.store.files.WithinLimits
      (s.shell.env.resolve (first ++ "/" ++ rest))) :
    s.Arrives (first ++ "/" ++ rest) id names := by
  obtain ⟨k, -, before⟩ := h.follows
  obtain ⟨m, -, after⟩ := next.follows
  have after := (follows_movedTo rooted h.way rest).mp after
  rw [relative] at after
  have follows : s.machine.store.files.Follows FileSystem.root
      (pathParts (s.shell.env.resolve (first ++ "/" ++ rest))) (k + m) id := by
    rw [resolve_append _ h.nonempty]
    exact FileSystem.follows_append.mpr ⟨mid, k, m, before, after, rfl⟩
  refine ⟨by simp, fun hm => ?_, ⟨k + m, limits.le next.enterable follows, follows⟩,
    next.enterable, next.way, next.short⟩
  simp [h.noNul, next.noNul] at hm

/-- The directory that a session is in. -/
theorem Arrives.stay (rooted : s.machine.store.files.Rooted) (h : s.Arrives word id names) :
    (s.movedTo id names).Arrives "." id names := by
  obtain ⟨d, directory, searchable⟩ := h.enterable
  refine ⟨by decide, by decide, ⟨0, Nat.zero_le _, ?_⟩, h.enterable, h.way, h.short⟩
  exact (follows_movedTo rooted h.way ".").mpr
    (.turn directory searchable (.stay rfl) (.done id))

/-- The path of the directory that a session is in. -/
theorem Arrives.again (rooted : s.machine.store.files.Rooted) (h : s.Arrives word id names) :
    (s.movedTo id names).Arrives (FileSystem.pathOfNames names) id names := by
  have isName (name : String) (hm : name ∈ names) : IsName name :=
    h.way.chain.isName rooted.toProper hm
  have absolute : isAbsolute (FileSystem.pathOfNames names) = true := by
    simp [isAbsolute, FileSystem.pathOfNames]
  refine ⟨by simp [FileSystem.pathOfNames], nul_notMem_pathOfNames isName,
    ⟨0, Nat.zero_le _, (follows_movedTo rooted h.way _).mpr ?_⟩, h.enterable, h.way, h.short⟩
  rw [if_pos absolute, pathParts_pathOfNames isName, ← List.append_nil names]
  exact (h.way.chain.follows_iff rooted).mpr ⟨h.way, .done id⟩

/-- `..` at the end of a path leads to the parent of where the path leads. -/
theorem Arrives.up (rooted : s.machine.store.files.Rooted) (h : s.Arrives word id names)
    (directory : s.machine.store.files.directory? id = some d) :
    s.Arrives (word ++ "/..") d.parent names.dropLast := by
  have parts : word ++ "/.." = word ++ "/" ++ ".." := by
    rw [String.append_assoc]
    rfl
  obtain ⟨n, bound, follows⟩ := h.follows
  obtain ⟨way, enterable⟩ := h.way.up rooted h.enterable directory
  obtain ⟨d', directory', searchable⟩ := h.enterable
  obtain rfl := Option.some.inj (directory.symm.trans directory')
  refine ⟨by simp, fun hm => ?_, ⟨n, bound, ?_⟩, enterable, way,
    Nat.lt_of_le_of_lt (utf8ByteSize_dropLast names) h.short⟩
  · simp [h.noNul] at hm
  · rw [parts, resolve_append _ h.nonempty]
    exact FileSystem.follows_append.mpr ⟨id, n, 0, follows,
      .turn directory searchable (.up rfl) (.done d.parent), rfl⟩

theorem ChangesTo.unique (h : s.ChangesTo word t) (h' : s.ChangesTo word u) : t = u := by
  obtain ⟨-, id, canonical, leads, rfl⟩ := h
  obtain ⟨-, id', canonical', leads', rfl⟩ := h'
  obtain ⟨rfl, rfl⟩ := Prod.mk.inj (Option.some.inj
    ((FileSystem.canonicalDirectory?_eq_some.mpr leads).symm.trans
      (FileSystem.canonicalDirectory?_eq_some.mpr leads')))
  rfl

def linked : Session :=
  { bare with
    shell.env.currentDir := "/"
    machine.store.files := ⟨#[.directory { parent := 0, entries := [("a", 4), ("l", 6)] },
      .file 0o644 [], .file 0o644 [], .file 0o644 [],
      .directory { parent := 0, entries := [("b", 5)] }, .directory { parent := 4 },
      .link "a/b"]⟩ }

end Session

end JobShell
