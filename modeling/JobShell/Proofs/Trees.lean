import JobShell.Proofs.Paths
import JobShell.Session.Execute

/-!
What the shell and the children that it starts do to the tree of files before their programs run:
directories gain entries at most, so they keep their paths, and the tree stays proper.
-/

namespace JobShell

/-- The node is neither a directory nor a link. -/
def Node.IsPlain : Node → Prop
  | .directory _ | .link _ => False
  | _ => True

namespace FileSystem

/-- Directories have gained entries at most, and a proper tree is still proper. -/
structure Grows (fs later : FileSystem) : Prop where
  size : fs.nodes.size ≤ later.nodes.size
  directories : ∀ id d, fs.directory? id = some d → ∃ d' added,
    later.directory? id = some d' ∧ d'.parent = d.parent ∧ d'.entries = d.entries ++ added
  proper : fs.Proper → later.Proper

variable {fs later last : FileSystem} {id : NodeId}

theorem Grows.refl (fs : FileSystem) : fs.Grows fs :=
  ⟨Nat.le_refl _, fun _ d hd => ⟨d, [], hd, rfl, by simp⟩, fun proper => proper⟩

theorem Grows.trans (first : fs.Grows later) (second : later.Grows last) : fs.Grows last where
  size := Nat.le_trans first.size second.size
  directories id d hd := by
    obtain ⟨d', added, hd', parent, entries⟩ := first.directories id d hd
    obtain ⟨d'', more, hd'', parent', entries'⟩ := second.directories id d' hd'
    exact ⟨d'', added ++ more, hd'', parent'.trans parent,
      by rw [entries', entries, List.append_assoc]⟩
  proper proper := second.proper (first.proper proper)

theorem Grows.nameOf? {place : NodeId × String} (h : fs.Grows later)
    (named : fs.nameOf? id = some place) : later.nameOf? id = some place := by
  unfold FileSystem.nameOf? at named ⊢
  split at named
  · next d hd =>
    obtain ⟨d', -, hd', parent, -⟩ := h.directories id d hd
    simp only [hd', parent]
    split at named
    · next p hp =>
      obtain ⟨p', added, hp', -, entries⟩ := h.directories d.parent p hp
      obtain ⟨entry, hfind, hentry⟩ := Option.map_eq_some_iff.mp named
      simp only [hp', entries, List.find?_append, hfind, Option.some_or, Option.map_some, hentry]
    · cases named
  · cases named

/-- Every directory keeps its path. -/
theorem Grows.pathOf? {path : String} (h : fs.Grows later) (here : fs.pathOf? id = some path) :
    later.pathOf? id = some path := by
  obtain ⟨names, hclimb, rfl⟩ := Option.map_eq_some_iff.mp here
  refine Option.map_eq_some_iff.mpr ⟨names, ?_, rfl⟩
  rw [← Nat.add_sub_of_le h.size]
  exact climb_mono (fun _ _ => h.nameOf?) hclimb _

theorem lt_size_of_get? {node : Node} (h : fs.get? id = some node) : id < fs.nodes.size :=
  (Array.getElem?_eq_some_iff.mp h).1

theorem size_set (fs : FileSystem) (id : NodeId) (node : Node) :
    (fs.set id node).nodes.size = fs.nodes.size :=
  Array.size_setIfInBounds

theorem directory?_congr {other : NodeId} (h : later.get? id = fs.get? other) :
    later.directory? id = fs.directory? other := by
  rw [FileSystem.directory?, h, FileSystem.directory?]

theorem directory?_of_isPlain {node : Node} (h : fs.get? id = some node) (plain : node.IsPlain) :
    fs.directory? id = none := by
  rw [FileSystem.directory?, h]
  cases node <;> first | rfl | cases plain

private theorem grows_of_same (size : fs.nodes.size ≤ later.nodes.size)
    (directories : ∀ id, later.directory? id = fs.directory? id)
    (links : ∀ id target, later.get? id = some (.link target) → fs.get? id = some (.link target)) :
    fs.Grows later where
  size := size
  directories id d hd := ⟨d, [], (directories id).trans hd, rfl, by simp⟩
  proper proper :=
    { distinct := fun id d hd => proper.distinct id d ((directories id).symm.trans hd)
      named := fun id d hd => proper.named id d ((directories id).symm.trans hd)
      links := fun id target htarget => proper.links id target (links id target htarget) }

private theorem grows_set {old node : Node} (h : fs.get? id = some old) (oldPlain : old.IsPlain)
    (plain : node.IsPlain) : fs.Grows (fs.set id node) := by
  have self := get?_set_self (lt_size_of_get? h) node
  refine grows_of_same (Nat.le_of_eq (size_set fs id node).symm) (fun other => ?_)
    fun other target htarget => ?_
  · by_cases he : other = id
    · rw [he, directory?_of_isPlain self plain, directory?_of_isPlain h oldPlain]
    · exact directory?_congr (get?_set_of_ne fs node he)
  · by_cases he : other = id
    · obtain rfl := Option.some.inj (self.symm.trans (he ▸ htarget))
      cases plain
    · rwa [get?_set_of_ne fs node he] at htarget

private theorem grows_setContent (fs : FileSystem) (id : NodeId) (content : Bytes) :
    fs.Grows (fs.setContent id content) := by
  unfold FileSystem.setContent
  split
  · next h => exact grows_set h trivial trivial
  · next h => exact grows_set h trivial trivial
  · exact .refl fs

theorem get?_add_of_ne {node : Node} (h : id ≠ fs.nodes.size) :
    (fs.add node).2.get? id = fs.get? id := by
  simp [FileSystem.add, FileSystem.get?, Array.getElem?_push, h]

private theorem grows_add {node : Node} (plain : node.IsPlain) : fs.Grows (fs.add node).2 := by
  have self := get?_add_self fs node
  refine grows_of_same (by simp [FileSystem.add]) (fun other => ?_) fun other target htarget => ?_
  · by_cases he : other = fs.nodes.size
    · have none : fs.get? other = none := by simp [FileSystem.get?, he]
      rw [directory?_of_isPlain (he ▸ self) plain, FileSystem.directory?, none]
    · exact directory?_congr (get?_add_of_ne he)
  · by_cases he : other = fs.nodes.size
    · obtain rfl := Option.some.inj (self.symm.trans (he ▸ htarget))
      cases plain
    · rwa [get?_add_of_ne he] at htarget

private theorem grows_enter {dir : NodeId} {d : Directory} {name : String}
    (hd : fs.directory? dir = some d)
    (free : d.entries.lookup name = none) (isName : IsName name) (node : NodeId) :
    fs.Grows (fs.enter dir name node) := by
  have unused : ∀ entry ∈ d.entries, entry.1 ≠ name := by
    intro entry hm he
    simpa [he] using List.lookup_eq_none_iff.mp free entry hm
  have entered : fs.enter dir name node =
      fs.set dir (.directory { d with entries := d.entries ++ [(name, node)] }) := by
    have kept : d.entries.filter (·.1 != name) = d.entries :=
      List.filter_eq_self.mpr fun entry hm => by simpa using unused entry hm
    rw [FileSystem.enter, hd]
    simp only [kept]
  have self := directory?_eq_some.mpr (get?_set_self (lt_size_of_get? (directory?_eq_some.mp hd))
    (.directory { d with entries := d.entries ++ [(name, node)] }))
  rw [← entered] at self
  have others {other : NodeId} (he : other ≠ dir) :
      (fs.enter dir name node).get? other = fs.get? other := by
    rw [entered, get?_set_of_ne fs _ he]
  refine ⟨?_, fun other found hfound => ?_, fun proper => ⟨fun other found hfound => ?_,
    fun other found hfound => ?_, fun other target htarget => ?_⟩⟩
  · rw [entered, size_set]
  · by_cases he : other = dir
    · subst he
      obtain rfl : d = found := Option.some.inj (hd.symm.trans hfound)
      exact ⟨_, _, self, rfl, rfl⟩
    · exact ⟨found, [], (directory?_congr (others he)).trans hfound, rfl, by simp⟩
  · by_cases he : other = dir
    · obtain rfl := Option.some.inj (self.symm.trans (he ▸ hfound))
      rw [List.map_append, List.nodup_append]
      refine ⟨proper.distinct dir d hd, by simp, ?_⟩
      simpa using fun entry hm => unused entry hm
    · exact proper.distinct other found ((directory?_congr (others he)).symm.trans hfound)
  · by_cases he : other = dir
    · obtain rfl := Option.some.inj (self.symm.trans (he ▸ hfound))
      intro entry hm
      rcases List.mem_append.mp hm with hm | hm
      · exact proper.named dir d hd entry hm
      · obtain rfl := List.mem_singleton.mp hm
        exact isName
    · exact proper.named other found ((directory?_congr (others he)).symm.trans hfound)
  · by_cases he : other = dir
    · cases (directory?_eq_some.mp self).symm.trans (he ▸ htarget)
    · exact proper.links other target ((others he).symm.trans htarget)

/-! Where new names come from. -/

/-- What may stand between slashes. -/
structure IsPart (name : String) : Prop where
  nonempty : name ≠ ""
  noSlash : '/' ∉ name.toList
  noNul : '\x00' ∉ name.toList

end FileSystem

private theorem isPart_of_mem_pathNames {path name : String} (noNul : '\x00' ∉ path.toList)
    (hm : name ∈ pathNames path) : FileSystem.IsPart name := by
  have parts {word : List Char} (hw : word ∈ Text.runs (· == '/') path.toList) :
      FileSystem.IsPart (String.ofList word) := by
    have split := Text.splits_iff_runs_eq.mpr (rfl : Text.runs (· == '/') path.toList = _)
    refine ⟨by simpa using split.ne_nil hw, fun slash => ?_, fun nul => ?_⟩
    · rw [String.toList_ofList] at slash
      simpa using split.solid hw '/' slash
    · rw [String.toList_ofList] at nul
      exact noNul ((split.isInfix hw).subset nul)
  rw [pathNames] at hm
  have mapped (hm : name ∈ (Text.runs (· == '/') path.toList).map String.ofList) :
      FileSystem.IsPart name := by
    obtain ⟨word, hw, rfl⟩ := List.mem_map.mp hm
    exact parts hw
  split at hm
  · rcases List.mem_append.mp hm with hm | hm
    · exact mapped hm
    · obtain rfl := List.mem_singleton.mp hm
      exact ⟨by decide, by decide, by decide⟩
  · exact mapped hm

namespace FileSystem
variable {fs : FileSystem}

private theorem walkWith_free {dir : NodeId} {free : String} (proper : fs.Proper) {follow : Bool}
    {jump : NodeId → List String → Except FileError Place}
    (jumps : ∀ here names, (∀ name ∈ names, IsPart name) →
      jump here names = .ok (.entry dir free none) →
      IsName free ∧ ∃ d, fs.directory? dir = some d ∧ d.entries.lookup free = none)
    {here : NodeId} {names : List String} (parts : ∀ name ∈ names, IsPart name)
    (h : fs.walkWith follow jump here names = .ok (.entry dir free none)) :
    IsName free ∧ ∃ d, fs.directory? dir = some d ∧ d.entries.lookup free = none := by
  revert parts h
  fun_induction FileSystem.walkWith fs follow jump here names with
  | case4 here rest d hd searchable ih =>
    exact fun parts h => ih (List.forall_mem_cons.mp parts).2 h
  | case5 here rest d hd searchable notHere ih =>
    exact fun parts h => ih (List.forall_mem_cons.mp parts).2 h
  | case7 here name d hd searchable notHere notUp short unused =>
    rintro parts ⟨⟩
    have part := parts free List.mem_cons_self
    exact ⟨⟨part.nonempty, part.noSlash, part.noNul, notHere, notUp, Nat.not_lt.mp short⟩, d, hd,
      unused⟩
  | case11 here name rest d hd searchable notHere notUp short id used target isLink =>
    refine fun parts h => jumps _ _ (fun name hm => ?_) h
    rcases List.mem_append.mp hm with hm | hm
    · exact isPart_of_mem_pathNames (proper.links id target isLink) hm
    · exact (List.forall_mem_cons.mp parts).2 name hm
  | case13 here name rest d hd searchable notHere notUp short id used more notLink ih =>
    exact fun parts h => ih (List.forall_mem_cons.mp parts).2 h
  | _ => rintro _ ⟨⟩

private theorem walk_free {dir : NodeId} {free : String} (proper : fs.Proper) {follow : Bool}
    {links : Nat} {here : NodeId} {names : List String} (parts : ∀ name ∈ names, IsPart name)
    (h : fs.walk follow links here names = .ok (.entry dir free none)) :
    IsName free ∧ ∃ d, fs.directory? dir = some d ∧ d.entries.lookup free = none := by
  induction links generalizing here names with
  | zero =>
    rw [FileSystem.walk] at h
    exact walkWith_free proper (by rintro _ _ _ ⟨⟩) parts h
  | succ links ih =>
    rw [FileSystem.walk] at h
    exact walkWith_free proper (fun _ _ => ih) parts h

private theorem locate_free {cwd dir : NodeId} {path name : String} {follow : Bool}
    (proper : fs.Proper) (h : fs.locate cwd path follow = .ok (.entry dir name none)) :
    IsName name ∧ ∃ d, fs.directory? dir = some d ∧ d.entries.lookup name = none := by
  unfold FileSystem.locate at h
  split_ifs at h with empty nul long absolute
  all_goals
    refine walk_free proper (fun part hm => isPart_of_mem_pathNames ?_ hm) h
    simpa using nul

private theorem create_grows {cwd dir : NodeId} {path name : String} {follow : Bool} {mode : Nat}
    {made : NodeId × FileSystem} (proper : fs.Proper)
    (place : fs.locate cwd path follow = .ok (.entry dir name none))
    (h : fs.create dir name mode = .ok made) : fs.Grows made.2 := by
  obtain ⟨isName, d, hd, free⟩ := locate_free proper place
  have adds : fs.Grows (fs.add (.file mode [])).2 := grows_add trivial
  have inside := lt_size_of_get? (directory?_eq_some.mp hd)
  have hd' : (fs.add (.file mode [])).2.directory? dir = some d :=
    (directory?_congr (get?_add_of_ne (Nat.ne_of_lt inside))).trans hd
  unfold FileSystem.create at h
  split_ifs at h
  obtain rfl := Except.ok.inj h
  exact adds.trans (grows_enter hd' free isName _)

end FileSystem

namespace Store
variable {store later : Store} {own : Nat → Option Handle} {cwd : NodeId} {path : String}
  {handle : Handle}

private theorem openNode_files {file : OpenFile} (h : store.openNode file = .ok (handle, later)) :
    later.files = store.files := by
  unfold openNode at h
  split at h
  · cases h
  · cases h
  · split at h
    · cases h
    · obtain rfl := congrArg Prod.snd (Except.ok.inj h)
      rfl

private theorem openForReading_files (h : store.openForReading own cwd path = .ok (handle, later)) :
    later.files = store.files := by
  unfold openForReading at h
  cases hfind : store.find own cwd path with
  | error e => simp [hfind, bind, Except.bind] at h
  | ok node => exact openNode_files (by simpa [hfind, bind, Except.bind] using h)

/-- To open for writing is to make a file, or to open a node that is no directory and perhaps to
empty it. -/
theorem openForWriting_cases {mode : Nat} {start : WriteStart} {opened : Handle × Store} :
    store.openForWriting own cwd path mode start = .ok opened →
    (∃ dir name made, store.files.locate cwd path true = .ok (.entry dir name none) ∧
      store.files.create dir name mode = .ok made ∧
      opened = { store with files := made.2 }.push
        { node := made.1, reads := start == WriteStart.kept, writes := true
          appends := start == WriteStart.atEnd }) ∨
    ∃ dir name entry id opening,
      store.files.locate cwd path true = .ok (.entry dir name (some entry)) ∧
      store.behind own entry = .ok id ∧ (∀ d, store.files.get? id ≠ some (.directory d)) ∧
      store.openNode
        { node := id, reads := start == WriteStart.kept, writes := true
          appends := start == WriteStart.atEnd } = .ok opening ∧
      opened = match start, store.files.get? id with
        | .empty, some (.file _ _) =>
          (opening.1, { opening.2 with files := opening.2.files.setContent id [] })
        | _, _ => opening := by
  intro h
  unfold openForWriting at h
  cases hplace : store.files.locate cwd path true with
  | error e => simp [hplace, bind, Except.bind] at h
  | ok place =>
    simp only [hplace, bind, Except.bind] at h
    cases place with
    | directory id => cases h
    | entry dir name found =>
      cases found with
      | none =>
        simp only at h
        cases hcreate : store.files.create dir name mode with
        | error e => simp [hcreate] at h
        | ok made =>
          rw [hcreate] at h
          exact .inl ⟨dir, name, made, rfl, hcreate, (Except.ok.inj h).symm⟩
      | some entry =>
        simp only at h
        cases leads : store.behind own entry with
        | error e => simp [leads] at h
        | ok id =>
          simp only [leads] at h
          split at h
          · cases h
          · next notDirectory =>
            split at h
            · cases h
            · next opening opens =>
              refine .inr ⟨dir, name, entry, id, opening, rfl, leads, notDirectory, opens,
                Except.ok.inj (h.symm.trans ?_)⟩
              generalize store.files.get? id = found
              cases start <;> rcases found with _ | _ | _ <;> rfl

private theorem openForWriting_grows {mode : Nat} {start : WriteStart} (proper : store.files.Proper)
    (h : store.openForWriting own cwd path mode start = .ok (handle, later)) :
    store.files.Grows later.files := by
  obtain ⟨dir, name, made, place, creates, opened⟩ |
    ⟨dir, name, entry, id, opening, -, -, -, opens, opened⟩ := openForWriting_cases h
  · obtain rfl := congrArg Prod.snd opened
    exact FileSystem.create_grows proper place creates
  · have same := openNode_files opens
    split at opened
    · obtain rfl := congrArg Prod.snd opened
      exact same ▸ FileSystem.grows_setContent _ _ _
    · obtain rfl := congrArg Prod.snd opened
      exact same ▸ .refl _

private theorem write_grows {bytes : Bytes} (h : store.write handle bytes = .ok later) :
    store.files.Grows later.files := by
  unfold write at h
  split at h
  · cases h
  · split at h
    · cases h
    · split at h
      · split at h
        · obtain rfl := Except.ok.inj h
          exact .refl _
        · cases h
      · obtain rfl := Except.ok.inj h
        exact FileSystem.grows_setContent _ _ _
      · obtain rfl := Except.ok.inj h
        exact FileSystem.grows_setContent _ _ _

theorem writeText_grows (store : Store) (handle : Handle) (text : String) :
    store.files.Grows (store.writeText handle text).files := by
  unfold writeText tryWrite
  split
  · next h => exact write_grows h
  · exact .refl _

end Store

private theorem Redirections.apply_grows (r : Redirections) (cwd : NodeId) (streams : Streams)
    {store : Store} (proper : store.files.Proper) :
    store.files.Grows (r.apply cwd streams store).store.files := by
  have output (streams : Streams) (store : Store) (proper : store.files.Proper) :
      store.files.Grows (r.applyOutput cwd streams store).store.files := by
    unfold Redirections.applyOutput
    split
    · exact .refl _
    · split
      · next h => exact Store.openForWriting_grows proper h
      · exact .refl _
  unfold Redirections.apply
  split
  · exact output streams store proper
  · split
    · next input opened h =>
      have same := Store.openForReading_files h
      exact same ▸ output { streams with input } opened (same.symm ▸ proper)
    · exact .refl _

def Store.telling (store : Store) : Option (Handle × String) → Store
  | none => store
  | some (handle, text) => store.writeText handle text

/-- Before its program runs a child redirects its streams, and perhaps tells of something then. -/
theorem Departure.make_store (programs : Programs) (s : Session) (command : Command)
    (background : Bool) : ∃ (r : Redirections) (told : Option (Handle × String)),
    (Departure.make programs s command background).store =
      (r.apply s.machine.cwd s.machine.streams s.machine.store).store.telling told := by
  unfold Departure.make
  simp only
  split
  · next h => obtain rfl | rfl := Redirections.stuck?_apply h <;> exact ⟨_, none, rfl⟩
  · split
    · exact ⟨_, some (_, _), rfl⟩
    · split
      · exact ⟨_, some (_, _), rfl⟩
      · exact ⟨_, none, rfl⟩

/-- Whatever a child does before its program runs. -/
theorem Departure.make_grows (programs : Programs) {s : Session} (command : Command)
    (background : Bool) (proper : s.machine.store.files.Proper) :
    s.machine.store.files.Grows (Departure.make programs s command background).store.files := by
  obtain ⟨r, told, store⟩ := make_store programs s command background
  have redirected := r.apply_grows s.machine.cwd s.machine.streams proper
  rw [store]
  cases told with
  | none => exact redirected
  | some message => exact redirected.trans (Store.writeText_grows _ _ _)

end JobShell
