import JobShell.Proofs.Trees

/-!
What can be opened, and what is open then. A file is opened anew each time, at its start. To open
it for reading changes no file; to open it for writing empties it, or makes it if its name is free.
What cannot be opened is left as it is.
-/

namespace JobShell.Store

/-- The node is there and can be opened with a permission. A process without a terminal cannot open
one. -/
structure Admits (store : Store) (id : NodeId) (permission : Permission) (node : Node) : Prop where
  there : store.files.get? id = some node
  notTerminal : node ≠ .device .terminal
  grants : node.grants permission = true

/-- The path leads to a node that can be read. -/
def Reads (store : Store) (own : Nat → Option Handle) (cwd : NodeId) (path : String) (id : NodeId) :
    Prop :=
  store.find own cwd path = .ok id ∧ ∃ node, store.Admits id .read node

/-- The path leads to a node that can be emptied for writing, or its last name is free and can be
given to a new file: the node, and the files then. -/
inductive Writes (store : Store) (own : Nat → Option Handle) (cwd : NodeId) (path : String)
    (mode : Nat) : NodeId → FileSystem → Prop
  | created {dir : NodeId} {name : String}
      (free : store.files.locate cwd path true = .ok (.entry dir name none))
      (reachable : store.files.isReachable dir = true)
      (changeable : store.files.grants dir .write = true) :
      Writes store own cwd path mode store.files.nodes.size
        ((store.files.add (.file mode [])).2.enter dir name store.files.nodes.size)
  | emptied {dir entry id : NodeId} {name : String} {oldMode : Nat} {content : Bytes}
      (taken : store.files.locate cwd path true = .ok (.entry dir name (some entry)))
      (leads : store.behind own entry = .ok id)
      (admits : store.Admits id .write (.file oldMode content)) :
      Writes store own cwd path mode id (store.files.set id (.file oldMode []))
  | kept {dir entry id : NodeId} {name : String} {node : Node}
      (taken : store.files.locate cwd path true = .ok (.entry dir name (some entry)))
      (leads : store.behind own entry = .ok id) (admits : store.Admits id .write node)
      (notDirectory : ∀ d, node ≠ .directory d)
      (notFile : ∀ mode content, node ≠ .file mode content) :
      Writes store own cwd path mode id store.files

/-- What stands under a number once it was opened for writing. A new file has the mode that was
asked for, and one that was there keeps its own; both are empty. -/
def cleared (mode : Nat) : Option Node → Node
  | none => .file mode []
  | some (.file oldMode _) => .file oldMode []
  | some node => node

variable {store : Store} {own : Nat → Option Handle} {cwd id : NodeId} {path : String}
  {mode : Nat} {files : FileSystem} {opened : Handle × Store}

private theorem openNode_eq_ok_iff {file : OpenFile} : store.openNode file = .ok opened ↔
    (∃ node, store.files.get? file.node = some node ∧ node ≠ .device .terminal ∧
      (file.reads && !node.grants .read || file.writes && !node.grants .write) = false) ∧
    opened = store.push file := by
  unfold openNode
  split
  · next missing => simp [missing]
  · next terminal => simp [terminal]
  · next node notTerminal there =>
    split
    · next refused =>
      refine iff_of_false nofun ?_
      rintro ⟨⟨found, hfound, -, granted⟩, -⟩
      obtain rfl := Option.some.inj (there.symm.trans hfound)
      exact absurd (refused.symm.trans granted) (by decide)
    · next granted =>
      rw [Except.ok.injEq]
      constructor
      · rintro rfl
        exact ⟨⟨node, there, notTerminal, Bool.not_eq_true _ ▸ granted⟩, rfl⟩
      · rintro ⟨-, rfl⟩
        rfl

theorem openForReading_eq_ok_iff : store.openForReading own cwd path = .ok opened ↔
    ∃ id, store.Reads own cwd path id ∧ opened = store.push { node := id, reads := true } := by
  unfold openForReading Reads
  cases hfind : store.find own cwd path with
  | error e => simp [bind, Except.bind]
  | ok id =>
    simp only [bind, Except.bind, openNode_eq_ok_iff, Except.ok.injEq]
    constructor
    · rintro ⟨⟨node, there, notTerminal, granted⟩, rfl⟩
      exact ⟨id, ⟨rfl, node, there, notTerminal, by simpa using granted⟩, rfl⟩
    · rintro ⟨_, ⟨rfl, node, there, notTerminal, granted⟩, rfl⟩
      exact ⟨⟨node, there, notTerminal, by simpa using granted⟩, rfl⟩

private theorem openNode_write : store.openNode { node := id, writes := true } = .ok opened ↔
    (∃ node, store.Admits id .write node) ∧ opened = store.push { node := id, writes := true } := by
  rw [openNode_eq_ok_iff]
  refine and_congr_left fun _ => exists_congr fun node => ?_
  constructor
  · rintro ⟨there, notTerminal, granted⟩
    exact ⟨there, notTerminal, by simpa using granted⟩
  · rintro ⟨there, notTerminal, granted⟩
    exact ⟨there, notTerminal, by simpa using granted⟩

private theorem openForWriting_of_writes (h : store.Writes own cwd path mode id files) :
    store.openForWriting own cwd path mode .empty =
      .ok ({ store with files }.push { node := id, writes := true }) := by
  cases h with
  | created free reachable changeable =>
    simp only [openForWriting, free, FileSystem.create, reachable, changeable, bind, Except.bind]
    rfl
  | emptied taken leads admits =>
    have opens := openNode_write.mpr ⟨⟨_, admits⟩, rfl⟩
    have start : (WriteStart.empty == .kept) = false ∧ (WriteStart.empty == .atEnd) = false := by
      decide
    simp only [openForWriting, taken, leads, admits.there, start, opens, bind, Except.bind]
    rw [FileSystem.setContent, files_push, admits.there]
    rfl
  | @kept dir entry _ name node taken leads admits notDirectory notFile =>
    have opens := openNode_write.mpr ⟨⟨_, admits⟩, rfl⟩
    have start : (WriteStart.empty == .kept) = false ∧ (WriteStart.empty == .atEnd) = false := by
      decide
    simp only [openForWriting, taken, leads, admits.there, start, opens, bind, Except.bind]
    cases node with
    | directory d => exact absurd rfl (notDirectory d)
    | file mode content => exact absurd rfl (notFile mode content)
    | _ => rfl

private theorem writes_of_openForWriting
    (h : store.openForWriting own cwd path mode .empty = .ok opened) :
    ∃ id files, store.Writes own cwd path mode id files ∧
      opened = { store with files }.push { node := id, writes := true } := by
  obtain ⟨dir, name, made, free, creates, rfl⟩ |
    ⟨dir, name, entry, id, opening, taken, leads, notDirectory, opens, rfl⟩ :=
      openForWriting_cases h
  · unfold FileSystem.create at creates
    split_ifs at creates with unreachable unchangeable
    obtain rfl := Except.ok.inj creates
    have reachable : store.files.isReachable dir = true := by simpa using unreachable
    have changeable : store.files.grants dir .write = true := by simpa using unchangeable
    exact ⟨_, _, .created free reachable changeable, rfl⟩
  · obtain ⟨⟨node, admits⟩, rfl⟩ := openNode_write.mp opens
    rw [admits.there] at notDirectory ⊢
    cases node with
    | directory d => exact absurd rfl (notDirectory d)
    | file oldMode content =>
      refine ⟨id, _, .emptied taken leads admits, ?_⟩
      rw [FileSystem.setContent, files_push, admits.there]
      rfl
    | _ => exact ⟨id, _, .kept taken leads admits nofun nofun, rfl⟩

/-- To open for writing is to empty the file that is there, or to make one. -/
theorem openForWriting_eq_ok_iff : store.openForWriting own cwd path mode .empty = .ok opened ↔
    ∃ id files, store.Writes own cwd path mode id files ∧
      opened = { store with files }.push { node := id, writes := true } := by
  refine ⟨writes_of_openForWriting, ?_⟩
  rintro ⟨id, files, writes, rfl⟩
  exact openForWriting_of_writes writes

/-! What becomes of the files. -/

private theorem get?_enter_file {fs : FileSystem} {other : NodeId} {otherMode : Nat}
    {content : Bytes} (there : fs.get? other = some (.file otherMode content)) (dir : NodeId)
    (name : String) (id : NodeId) :
    (fs.enter dir name id).get? other = some (.file otherMode content) := by
  unfold FileSystem.enter
  cases hd : fs.directory? dir with
  | none => exact there
  | some d =>
    have isDirectory := FileSystem.directory?_eq_some.mp hd
    have apart : other ≠ dir := by
      rintro rfl
      cases there.symm.trans isDirectory
    exact (FileSystem.get?_set_of_ne _ _ apart).trans there

theorem Writes.get?_self (h : store.Writes own cwd path mode id files) :
    files.get? id = some (cleared mode (store.files.get? id)) := by
  cases h with
  | created =>
    have free : store.files.get? store.files.nodes.size = none := by simp [FileSystem.get?]
    rw [free]
    exact get?_enter_file (FileSystem.get?_add_self _ _) _ _ _
  | emptied _ _ admits =>
    rw [admits.there]
    exact FileSystem.get?_set_self (FileSystem.lt_size_of_get? admits.there) _
  | @kept _ _ _ _ node _ _ admits _ notFile =>
    rw [admits.there]
    cases node with
    | file mode content => exact absurd rfl (notFile mode content)
    | _ => rfl

/-- Every other node is what it was, or is a directory as it was before. -/
theorem Writes.get?_of_ne (h : store.Writes own cwd path mode id files) {other : NodeId}
    (apart : other ≠ id) : files.get? other = store.files.get? other ∨
      (∃ d, files.get? other = some (.directory d)) ∧
        ∃ d, store.files.get? other = some (.directory d) := by
  cases h with
  | @created dir name =>
    have added : (store.files.add (.file mode [])).2.get? other = store.files.get? other :=
      FileSystem.get?_add_of_ne apart
    unfold FileSystem.enter
    cases found : (store.files.add (.file mode [])).2.directory? dir with
    | none => exact .inl added
    | some d =>
      have isDirectory := FileSystem.directory?_eq_some.mp found
      by_cases here : other = dir
      · subst here
        refine .inr ⟨⟨_, FileSystem.get?_set_self (FileSystem.lt_size_of_get? isDirectory) _⟩, d, ?_⟩
        exact added.symm.trans isDirectory
      · exact .inl ((FileSystem.get?_set_of_ne _ _ here).trans added)
  | emptied => exact .inl (FileSystem.get?_set_of_ne _ _ apart)
  | kept => exact .inl rfl

/-- Every other regular file is what it was. -/
theorem Writes.get?_other (h : store.Writes own cwd path mode id files) {other : NodeId}
    (apart : other ≠ id) {otherMode : Nat} {content : Bytes}
    (there : store.files.get? other = some (.file otherMode content)) :
    files.get? other = some (.file otherMode content) := by
  obtain same | ⟨-, d, isDirectory⟩ := h.get?_of_ne apart
  · rw [same, there]
  · cases there.symm.trans isDirectory

/-- One path leads to one node, for reading as for writing. -/
theorem Reads.eq_of_writes {later : Store} {own' : Nat → Option Handle} {id' : NodeId}
    (reads : store.Reads own cwd path id) (writes : later.Writes own' cwd path mode id' files)
    (sameFiles : later.files = store.files)
    (sameBehind : ∀ entry, store.behind own entry = .ok id → later.behind own' entry = .ok id) :
    id' = id := by
  have found := reads.1
  unfold Store.find FileSystem.find at found
  rw [← sameFiles] at found
  have leads {dir entry : NodeId} {name : String}
      (taken : later.files.locate cwd path true = .ok (.entry dir name (some entry))) :
      later.behind own' entry = .ok id := by
    simp only [taken, Place.node?, bind, Except.bind] at found
    exact sameBehind entry found
  cases writes with
  | created free => simp [free, Place.node?, bind, Except.bind] at found
  | emptied taken leads' => exact Except.ok.inj (leads'.symm.trans (leads taken))
  | kept taken leads' => exact Except.ok.inj (leads'.symm.trans (leads taken))

/-! What is written. -/

/-- Writing goes on at the end of a regular file. -/
theorem tryWrite_at_end {handle : Handle} {content : Bytes}
    (writing : store.opened[handle]? =
      some { node := id, writes := true, offset := content.length })
    (regular : store.files.get? id = some (.file mode content)) (bytes : Bytes) :
    store.tryWrite handle bytes =
      { files := store.files.set id (.file mode (content ++ bytes))
        opened := store.opened.setIfInBounds handle
          { node := id, writes := true, offset := content.length + bytes.length } } := by
  simp only [tryWrite, write, writing, regular, FileSystem.content, FileSystem.setContent,
    overwrite_length, Bool.not_true, Bool.false_eq_true, if_false]

end JobShell.Store
