import JobShell.Proofs.Overlooking
import JobShell.Proofs.Redirecting

/-!
Stores under a veil: what is in some files is not seen, nor where open files go on. Nothing that a
child does before its program runs depends on that, so it does the same on the store and on what is
seen of it.
-/

namespace JobShell

def Node.emptied : Node → Node
  | file mode _ => file mode []
  | pipe mode _ => pipe mode []
  | node => node

@[simp] theorem Node.grants_emptied (permission : Permission) (node : Node) :
    node.emptied.grants permission = node.grants permission := by
  rcases node with _ | _ | _ | _ | _ | ⟨_ | _⟩ | _ <;> rfl

namespace FileSystem

def veil (fs : FileSystem) (hides : NodeId → Bool) : FileSystem :=
  ⟨fs.nodes.mapIdx fun id node => if hides id then node.emptied else node⟩

variable {fs : FileSystem} {hides : NodeId → Bool}

@[simp] theorem size_veil : (fs.veil hides).nodes.size = fs.nodes.size := by
  simp [veil]

theorem get?_veil (id : NodeId) : (fs.veil hides).get? id =
    (fs.get? id).map fun node => if hides id then node.emptied else node := by
  simp [veil, get?]

@[simp] theorem directory?_veil (id : NodeId) :
    (fs.veil hides).directory? id = fs.directory? id := by
  unfold directory?
  rw [get?_veil]
  rcases fs.get? id with _ | ⟨_ | _ | _ | _ | _ | _ | _⟩ <;> cases hides id <;> rfl

@[simp] theorem grants_veil (id : NodeId) (permission : Permission) :
    (fs.veil hides).grants id permission = fs.grants id permission := by
  unfold grants
  rw [get?_veil]
  rcases fs.get? id with _ | ⟨_ | _ | _ | _ | _ | ⟨_ | _⟩ | _⟩ <;> cases hides id <;> rfl

/-! Looking up a path. -/

@[simp] theorem nameOf?_veil (id : NodeId) : (fs.veil hides).nameOf? id = fs.nameOf? id := by
  simp only [nameOf?, directory?_veil]

@[simp] theorem climb_veil (fuel : Nat) (id : NodeId) (names : List String) :
    (fs.veil hides).climb fuel id names = fs.climb fuel id names := by
  induction fuel generalizing id names with
  | zero => rfl
  | succ fuel ih => simp only [climb, nameOf?_veil, ih]

@[simp] theorem isReachable_veil (id : NodeId) :
    (fs.veil hides).isReachable id = fs.isReachable id := by
  simp only [isReachable, size_veil, climb_veil]

@[simp] theorem get?_veil_eq_link {id : NodeId} {target : String} :
    (fs.veil hides).get? id = some (.link target) ↔ fs.get? id = some (.link target) := by
  rw [get?_veil]
  rcases fs.get? id with _ | ⟨_ | _ | _ | _ | _ | _ | _⟩ <;> cases hides id <;> simp [Node.emptied]

private theorem walkWith_veil (follow : Bool)
    (jump : NodeId → List String → Except FileError Place) (here : NodeId) (names : List String) :
    (fs.veil hides).walkWith follow jump here names = fs.walkWith follow jump here names := by
  have notLink {id : NodeId} (other : ∀ target, fs.get? id = some (.link target) → False)
      (target : String) (isLink : (fs.veil hides).get? id = some (.link target)) : False :=
    other target (get?_veil_eq_link.mp isLink)
  fun_induction FileSystem.walkWith fs follow jump here names with
  | case9 here name rest dir there opens notHere notUp short id named target isLink ends =>
    simp only [FileSystem.walkWith, directory?_veil, there, if_neg opens, if_neg notHere,
      if_neg notUp, if_neg short, named, get?_veil_eq_link.mpr isLink, if_pos ends]
  | case10 here name rest dir there opens notHere notUp short id named goes isLink =>
    simp only [FileSystem.walkWith, directory?_veil, there, if_neg opens, if_neg notHere,
      if_neg notUp, if_neg short, named, get?_veil_eq_link.mpr isLink, if_neg goes, if_true]
  | case11 here name rest dir there opens notHere notUp short id named target isLink goes leads =>
    simp only [FileSystem.walkWith, directory?_veil, there, if_neg opens, if_neg notHere,
      if_neg notUp, if_neg short, named, get?_veil_eq_link.mpr isLink, if_neg goes, if_neg leads]
  | case12 here name dir there opens notHere notUp short id named other =>
    simp only [FileSystem.walkWith, directory?_veil, there, if_neg opens, if_neg notHere,
      if_neg notUp, if_neg short, named]
    split
    · next isLink => exact (notLink other _ isLink).elim
    · rfl
  | case13 here name rest dir there opens notHere notUp short id named goes other ih =>
    simp only [FileSystem.walkWith, directory?_veil, there, if_neg opens, if_neg notHere,
      if_neg notUp, if_neg short, named]
    split
    · next isLink => exact (notLink other _ isLink).elim
    · rw [if_neg goes, ih]
  | _ => simp [FileSystem.walkWith, *]

private theorem walk_veil (follow : Bool) (links : Nat) :
    (fs.veil hides).walk follow links = fs.walk follow links := by
  induction links with
  | zero => exact funext₂ (walkWith_veil follow _)
  | succ links ih =>
    rw [FileSystem.walk, ih]
    exact funext₂ (walkWith_veil follow _)

private theorem locate_veil (cwd : NodeId) (path : String) (follow : Bool) :
    (fs.veil hides).locate cwd path follow = fs.locate cwd path follow := by
  simp only [locate, walk_veil]

private theorem find_veil (cwd : NodeId) (path : String) :
    (fs.veil hides).find cwd path = fs.find cwd path := by
  simp only [find, locate_veil]

theorem canonicalDirectory?_veil (cwd : NodeId) (path : String) :
    (fs.veil hides).canonicalDirectory? cwd path = fs.canonicalDirectory? cwd path := by
  simp only [canonicalDirectory?, isReachable_veil, walk_veil, directory?_veil, pathOf?, size_veil,
    climb_veil]

/-! Making and emptying files. -/

private theorem add_veil {node : Node} (empty : node.emptied = node) :
    (fs.veil hides).add node = ((fs.add node).1, (fs.add node).2.veil hides) := by
  simp [add, veil, empty]

private theorem set_veil {node : Node} {id : NodeId}
    (empty : hides id = true → node.emptied = node) :
    (fs.veil hides).set id node = (fs.set id node).veil hides := by
  simp only [set, veil, mk.injEq]
  apply Array.ext_getElem?
  intro i
  simp only [Array.getElem?_setIfInBounds, Array.getElem?_mapIdx, Array.size_mapIdx]
  by_cases here : id = i
  · subst here
    by_cases inside : id < fs.nodes.size
    · simpa [inside] using fun hidden => (empty hidden).symm
    · simp [inside]
  · simp [here]

private theorem enter_veil (dir : NodeId) (name : String) (id : NodeId) :
    (fs.veil hides).enter dir name id = (fs.enter dir name id).veil hides := by
  unfold enter
  rw [directory?_veil]
  split
  · exact set_veil fun _ => rfl
  · rfl

private theorem create_veil (dir : NodeId) (name : String) (mode : Nat) :
    (fs.veil hides).create dir name mode =
      (fs.create dir name mode).map fun made => (made.1, made.2.veil hides) := by
  unfold create
  rw [isReachable_veil, grants_veil, add_veil rfl]
  split_ifs
  · rfl
  · rfl
  · exact congrArg (fun files => Except.ok (_, files)) (enter_veil _ _ _)

private theorem empty_veil (id : NodeId) :
    (fs.veil hides).setContent id [] = (fs.setContent id []).veil hides := by
  unfold setContent
  rw [get?_veil]
  rcases fs.get? id with _ | ⟨_ | _ | _ | _ | _ | _ | _⟩ <;> cases hides id <;>
    first | rfl | exact set_veil fun _ => rfl

/-! What is in a file. -/

theorem content_veil {id : NodeId} (shown : hides id = false) :
    (fs.veil hides).content id = fs.content id := by
  unfold content
  rw [get?_veil, shown]
  cases fs.get? id <;> rfl

private theorem setContent_veil {id : NodeId} (shown : hides id = false) (content : Bytes) :
    (fs.veil hides).setContent id content = (fs.setContent id content).veil hides := by
  unfold setContent
  rw [get?_veil, shown]
  rcases fs.get? id with _ | ⟨_ | _ | _ | _ | _ | _ | _⟩ <;>
    first | rfl | exact set_veil fun hidden => absurd (shown.symm.trans hidden) nofun

private theorem veil_set {id : NodeId} {node old : Node} (hidden : hides id = true)
    (there : fs.get? id = some old) (same : node.emptied = old.emptied) :
    (fs.set id node).veil hides = fs.veil hides := by
  obtain ⟨inside, isOld⟩ := Array.getElem?_eq_some_iff.mp there
  simp only [veil, set, mk.injEq]
  apply Array.ext_getElem?
  intro i
  simp only [Array.getElem?_mapIdx, Array.getElem?_setIfInBounds]
  by_cases here : id = i
  · subst here
    simp [inside, isOld, hidden, same]
  · simp [here]

private theorem veil_setContent {id : NodeId} (hidden : hides id = true) (content : Bytes) :
    (fs.setContent id content).veil hides = fs.veil hides := by
  unfold setContent
  split
  · next there => exact veil_set hidden there rfl
  · next there => exact veil_set hidden there rfl
  · rfl

end FileSystem

/-- What is not seen of a store, and where the open files seem to go on. -/
structure Veil where
  hides : NodeId → Bool
  place : Handle → OpenFile → Nat

/-- What is opened after so many others seems to begin where it does. -/
def Veil.Fits (v : Veil) (opened : Nat) : Prop :=
  ∀ handle, opened ≤ handle → ∀ file : OpenFile, file.offset = 0 → v.place handle file = 0

private theorem Veil.Fits.mono {v : Veil} {opened later : Nat} (h : v.Fits opened)
    (more : opened ≤ later) : v.Fits later :=
  fun handle new => h handle (Nat.le_trans more new)

namespace Store

def veil (store : Store) (v : Veil) : Store :=
  { files := store.files.veil v.hides
    opened := store.opened.mapIdx fun handle file => { file with offset := v.place handle file } }

variable {store : Store} {v : Veil} {own : Nat → Option Handle} {cwd : NodeId} {path : String}

@[simp] theorem files_veil : (store.veil v).files = store.files.veil v.hides := rfl

@[simp] theorem size_opened_veil : (store.veil v).opened.size = store.opened.size := by
  simp [veil]

theorem opened_veil (handle : Handle) : (store.veil v).opened[handle]? =
    (store.opened[handle]?).map fun file => { file with offset := v.place handle file } := by
  simp [veil]

private theorem push_veil (fits : v.Fits store.opened.size) {file : OpenFile}
    (start : file.offset = 0) :
    (store.veil v).push file = ((store.push file).1, (store.push file).2.veil v) := by
  have place : v.place store.opened.size file = file.offset := by
    rw [fits _ (Nat.le_refl _) file start, start]
  simp [push, veil, place]

@[simp] theorem behind_veil (own : Nat → Option Handle) (id : NodeId) :
    (store.veil v).behind own id = store.behind own id := by
  unfold behind
  rw [files_veil, FileSystem.get?_veil]
  rcases store.files.get? id with _ | ⟨_ | _ | _ | _ | _ | _ | number⟩ <;> cases v.hides id <;>
    try rfl
  all_goals
    simp only [Option.map_some, Node.emptied, Bool.false_eq_true, if_false, if_true]
    cases own number with
    | none => rfl
    | some handle =>
      simp only [Option.bind_some, opened_veil]
      cases store.opened[handle]? <;> rfl

@[simp] theorem find_veil (own : Nat → Option Handle) (cwd : NodeId) (path : String) :
    (store.veil v).find own cwd path = store.find own cwd path := by
  simp [find, FileSystem.find_veil]

theorem hasOpen_veil (held : List Handle) (node : NodeId) {way : OpenFile → Bool}
    (blind : ∀ (file : OpenFile) offset, way { file with offset } = way file) :
    (store.veil v).hasOpen held node way = store.hasOpen held node way := by
  unfold hasOpen
  congr 1
  funext handle
  rw [opened_veil]
  cases store.opened[handle]? <;> simp [blind]

@[simp] theorem lacksPeer_veil (held : List Handle) (handle : Handle) :
    (store.veil v).lacksPeer held handle = store.lacksPeer held handle := by
  unfold lacksPeer
  rw [opened_veil]
  cases store.opened[handle]? with
  | none => rfl
  | some file =>
    have same : (store.veil v).hasOpen held file.node
        (if file.reads then OpenFile.writes else OpenFile.reads) =
          store.hasOpen held file.node (if file.reads then OpenFile.writes else OpenFile.reads) :=
      hasOpen_veil held file.node (by cases file.reads <;> exact fun _ _ => rfl)
    simp only [Option.map_some, Option.any_some, files_veil, FileSystem.get?_veil, same]
    rcases store.files.get? file.node with _ | ⟨_ | _ | _ | _ | _ | ⟨_ | _⟩ | _⟩ <;>
      cases v.hides file.node <;> rfl

/-! Opening. -/

def veiled (v : Veil) (result : Except FileError (Handle × Store)) :
    Except FileError (Handle × Store) :=
  result.map fun opened => (opened.1, opened.2.veil v)

private theorem openNode_eq {file : OpenFile} {node : Node}
    (there : store.files.get? file.node = some node) (notTerminal : node ≠ .device .terminal) :
    store.openNode file =
      if (file.reads && !node.grants .read) || (file.writes && !node.grants .write) then
        .error .denied
      else .ok (store.push file) := by
  unfold openNode
  rw [there]
  split
  · next none => cases none
  · next terminal => exact absurd (Option.some.inj terminal) notTerminal
  · next found => rw [Option.some.inj found]

private theorem openNode_veil (fits : v.Fits store.opened.size) {file : OpenFile}
    (start : file.offset = 0) :
    (store.veil v).openNode file = veiled v (store.openNode file) := by
  cases there : store.files.get? file.node with
  | none => simp [openNode, FileSystem.get?_veil, there, veiled, Except.map]
  | some node =>
    have seen : (store.veil v).files.get? file.node =
        some (if v.hides file.node then node.emptied else node) := by
      rw [files_veil, FileSystem.get?_veil, there, Option.map_some]
    by_cases terminal : node = .device .terminal
    · subst terminal
      have alone : (if v.hides file.node then (Node.device .terminal).emptied
          else .device .terminal) = .device .terminal := by
        cases v.hides file.node <;> rfl
      unfold openNode
      rw [seen, there, alone]
      rfl
    · have other : (if v.hides file.node then node.emptied else node) ≠ .device .terminal := by
        split
        · cases node <;> simp_all [Node.emptied]
        · exact terminal
      have grants (permission : Permission) :
          (if v.hides file.node then node.emptied else node).grants permission =
            node.grants permission := by
        split <;> simp
      rw [openNode_eq seen other, openNode_eq there terminal, grants, grants, push_veil fits start]
      split <;> rfl

private theorem openForReading_veil (fits : v.Fits store.opened.size) (own : Nat → Option Handle)
    (cwd : NodeId) (path : String) :
    (store.veil v).openForReading own cwd path = veiled v (store.openForReading own cwd path) := by
  simp only [openForReading, find_veil, bind, Except.bind]
  cases store.find own cwd path with
  | error e => rfl
  | ok node => exact openNode_veil fits rfl

private theorem openForWriting_veil (fits : v.Fits store.opened.size) (own : Nat → Option Handle)
    (cwd : NodeId) (path : String) (mode : Nat) (start : WriteStart) :
    (store.veil v).openForWriting own cwd path mode start =
      veiled v (store.openForWriting own cwd path mode start) := by
  simp only [openForWriting, files_veil, FileSystem.locate_veil, behind_veil, bind, Except.bind]
  cases store.files.locate cwd path true with
  | error e => rfl
  | ok place =>
    cases place with
    | directory id => rfl
    | entry dir name found =>
      cases found with
      | none =>
        simp only [FileSystem.create_veil]
        cases store.files.create dir name mode with
        | error e => rfl
        | ok made =>
          have pushes (files : FileSystem) {file : OpenFile} (start : file.offset = 0) :
              ({ store.veil v with files := files.veil v.hides } : Store).push file =
                (({ store with files }.push file).1, ({ store with files }.push file).2.veil v) :=
            @push_veil { store with files } v fits _ start
          exact congrArg Except.ok (pushes made.2 rfl)
      | some node =>
        simp only
        cases store.behind own node with
        | error e => rfl
        | ok node =>
          simp only [FileSystem.get?_veil]
          rw [openNode_veil fits rfl]
          rcases store.files.get? node with _ | ⟨_ | _ | _ | _ | _ | _ | _⟩ <;>
            cases v.hides node <;> try rfl
          all_goals
            simp only [Option.map_some, Node.emptied, if_true, if_false, Bool.false_eq_true]
            cases store.openNode _ with
            | error e => rfl
            | ok opened =>
              cases start <;> simp only [veiled, Except.map, files_veil, FileSystem.empty_veil] <;>
                rfl

/-! Writing. -/

private theorem setIfInBounds_veil {files : FileSystem} {handle : Handle} {file : OpenFile}
    (place : v.place handle file = file.offset) :
    ({ files := files.veil v.hides
       opened := (store.veil v).opened.setIfInBounds handle file } : Store) =
      veil { files, opened := store.opened.setIfInBounds handle file } v := by
  unfold veil
  congr 1
  apply Array.ext_getElem?
  intro i
  simp only [Array.getElem?_setIfInBounds, Array.getElem?_mapIdx, Array.size_mapIdx]
  split
  · next here =>
    subst here
    split <;> simp [place]
  · rfl

/-- What is written to an open file that is seen is written there under the veil too. -/
theorem tryWrite_veil {handle : Handle} (shown : ∀ file ∈ store.opened[handle]?,
      v.hides file.node = false ∧ ∀ offset, v.place handle { file with offset } = offset)
    (bytes : Bytes) :
    (store.veil v).tryWrite handle bytes = (store.tryWrite handle bytes).veil v := by
  unfold tryWrite write
  rw [opened_veil]
  cases there : store.opened[handle]? with
  | none => rfl
  | some file =>
    obtain ⟨visible, place⟩ := shown file there
    have same : v.place handle file = file.offset := place file.offset
    simp only [Option.map_some, files_veil, FileSystem.get?_veil, visible, same,
      FileSystem.content_veil visible, FileSystem.setContent_veil visible, Bool.false_eq_true, 
      if_false, Option.map_id']
    by_cases readOnly : (!file.writes) = true
    · simp only [if_pos readOnly]
    · have regular (content : Bytes) (offset : Nat) :
          ({ files := (store.files.setContent file.node content).veil v.hides
             opened := (store.veil v).opened.setIfInBounds handle { file with offset } } : Store) =
            veil
              { files := store.files.setContent file.node content
                opened := store.opened.setIfInBounds handle { file with offset } } v :=
        setIfInBounds_veil (place offset)
      simp only [if_neg readOnly]
      rcases store.files.get? file.node with _ | ⟨_ | _ | _ | ⟨_ | _ | _ | _⟩ | _ | _ | _⟩ <;>
        first | rfl | exact regular _ _ | (by_cases empty : bytes = [] <;> simp [empty])

private theorem veil_setIfInBounds {files : FileSystem} {handle : Handle} {file old : OpenFile}
    (same : files.veil v.hides = store.files.veil v.hides)
    (there : store.opened[handle]? = some old)
    (place : ({ file with offset := v.place handle file } : OpenFile) =
      { old with offset := v.place handle old }) :
    veil { files, opened := store.opened.setIfInBounds handle file } v = store.veil v := by
  obtain ⟨inside, isOld⟩ := Array.getElem?_eq_some_iff.mp there
  simp only [veil, same, mk.injEq, true_and]
  apply Array.ext_getElem?
  intro i
  simp only [Array.getElem?_mapIdx, Array.getElem?_setIfInBounds]
  by_cases here : handle = i
  · subst here
    simp [inside, isOld, place]
  · simp [here]

/-- What is written to a hidden file is not seen. -/
theorem veil_tryWrite {handle : Handle} (hidden : ∀ file ∈ store.opened[handle]?,
      v.hides file.node = true ∧
        ∀ offset, v.place handle { file with offset } = v.place handle file)
    (bytes : Bytes) : (store.tryWrite handle bytes).veil v = store.veil v := by
  unfold tryWrite write
  cases there : store.opened[handle]? with
  | none => rfl
  | some file =>
    obtain ⟨invisible, place⟩ := hidden file there
    have unseen (content : Bytes) : (store.files.setContent file.node content).veil v.hides =
        store.files.veil v.hides :=
      FileSystem.veil_setContent invisible content
    dsimp only
    by_cases readOnly : (!file.writes) = true
    · rw [if_pos readOnly]
    · have regular (content : Bytes) (offset : Nat) :
          veil
            { files := store.files.setContent file.node content
              opened := store.opened.setIfInBounds handle { file with offset } } v =
            store.veil v :=
        veil_setIfInBounds (unseen content) there (by rw [place])
      rw [if_neg readOnly]
      rcases store.files.get? file.node with _ | ⟨_ | _ | _ | ⟨_ | _ | _ | _⟩ | _ | _ | _⟩ <;>
        first | exact regular _ _ | exact congrArg (Store.mk · _) (unseen _) |
          (by_cases empty : bytes = [] <;> simp [empty])

end Store

/-! What a child does before its program runs. -/

namespace Redirections
variable (r : Redirections) (cwd : NodeId) (streams : Streams) {store : Store} {v : Veil}

private theorem applyOutput_veil (fits : v.Fits store.opened.size) :
    r.applyOutput cwd streams (store.veil v) =
      { r.applyOutput cwd streams store with
        store := (r.applyOutput cwd streams store).store.veil v } := by
  unfold applyOutput
  split
  · rfl
  · rw [Store.openForWriting_veil fits]
    cases store.openForWriting _ _ _ _ _ <;> rfl

theorem apply_veil (fits : v.Fits store.opened.size) :
    r.apply cwd streams (store.veil v) =
      { r.apply cwd streams store with store := (r.apply cwd streams store).store.veil v } := by
  unfold apply
  split
  · exact r.applyOutput_veil cwd streams fits
  · rw [Store.openForReading_veil fits]
    cases opens : store.openForReading _ _ _ with
    | error e => rfl
    | ok opened =>
      obtain ⟨id, -, rfl⟩ := Store.openForReading_eq_ok_iff.mp opens
      exact r.applyOutput_veil cwd _ (fits.mono (by simp [Store.push]))

private theorem stuck?_veil (held : List Handle) (fits : v.Fits store.opened.size) :
    r.stuck? held cwd streams (store.veil v) =
      (r.stuck? held cwd streams store).map fun reached =>
        { reached with store := reached.store.veil v } := by
  simp only [stuck?, apply_veil _ _ _ fits, Store.lacksPeer_veil]
  split
  · rfl
  · split <;> rfl

end Redirections

namespace Image
variable {store : Store} {v : Veil} {held : List Handle} (own : Nat → Option Handle) (cwd : NodeId)

private theorem ofFile_veil
    (busy : ∀ id, v.hides id = true → store.hasOpen held id OpenFile.writes = true)
    (depth : Nat) (path : String) :
    ofFile (store.veil v) held own cwd depth path = ofFile store held own cwd depth path := by
  induction depth using Nat.strongRecOn generalizing path with
  | ind depth ih =>
    unfold ofFile
    rw [Store.find_veil]
    cases store.find own cwd path with
    | error e => rfl
    | ok node =>
      have writing : (store.veil v).hasOpen held node OpenFile.writes =
          store.hasOpen held node OpenFile.writes := Store.hasOpen_veil held node fun _ _ => rfl
      simp only [bind, Except.bind, Store.files_veil, FileSystem.get?_veil, writing]
      rcases store.files.get? node with _ | ⟨_ | ⟨mode, content⟩ | _ | _ | _ | _ | _⟩ <;>
        cases hides : v.hides node <;> try rfl
      · cases depth with
        | zero => rfl
        | succ depth =>
          simp only [Option.map_some, Bool.false_eq_true, if_false, ih depth (Nat.lt_succ_self _)]
      · simp only [Option.map_some, if_true, Node.emptied, busy node hides]

private theorem ofPath_veil
    (busy : ∀ id, v.hides id = true → store.hasOpen held id OpenFile.writes = true)
    (path : String) :
    ofPath (store.veil v) held own cwd path = ofPath store held own cwd path := by
  simp only [ofPath, ofFile_veil own cwd busy]

private theorem findAmong_veil
    (busy : ∀ id, v.hides id = true → store.hasOpen held id OpenFile.writes = true)
    (failure : FileError) (paths : List String) :
    findAmong (store.veil v) held own cwd failure paths =
      findAmong store held own cwd failure paths := by
  induction paths generalizing failure with
  | nil => rfl
  | cons path rest ih => simp only [findAmong, ofPath_veil own cwd busy, ih]

private theorem find_veil
    (busy : ∀ id, v.hides id = true → store.hasOpen held id OpenFile.writes = true)
    (exported : Variables) (argv : List String) :
    find (store.veil v) held own cwd exported argv = find store held own cwd exported argv := by
  simp only [find, findAmong_veil own cwd busy]

private theorem find_eq_of_veil {other : Store} (same : other.veil v = store.veil v)
    (busy : ∀ id, v.hides id = true → store.hasOpen held id OpenFile.writes = true)
    (exported : Variables) (argv : List String) :
    find other held own cwd exported argv = find store held own cwd exported argv := by
  have busy' : ∀ id, v.hides id = true → other.hasOpen held id OpenFile.writes = true := by
    intro id hides
    rw [← Store.hasOpen_veil (v := v) _ _ fun _ _ => rfl, same,
      Store.hasOpen_veil _ _ fun _ _ => rfl]
    exact busy id hides
  rw [← find_veil own cwd busy', same, find_veil own cwd busy]

end Image

private theorem Redirections.hasOpen_apply {store : Store} {held : List Handle} {id : NodeId}
    (r : Redirections) (cwd : NodeId) (streams : Streams)
    (busy : store.hasOpen held id OpenFile.writes = true) :
    (r.apply cwd streams store).store.hasOpen ((r.apply cwd streams store).streams.held ++ held) id
      OpenFile.writes = true := by
  obtain ⟨handle, hm, opens⟩ := List.any_eq_true.mp busy
  obtain ⟨file, there, writing⟩ := (Option.any_eq_true _ _).mp opens
  have holds : StreamState.Holds ⟨streams, store⟩ (StreamState.redirect cwd ⟨streams, store⟩ r) :=
    StreamState.holds_redirect _ r
  obtain ⟨offset, later⟩ := holds handle file there
  refine List.any_eq_true.mpr ⟨handle, List.mem_append_right _ hm, ?_⟩
  exact (Option.any_eq_true _ _).mpr ⟨_, later, writing⟩

/-- What a session hands on to a child, the files apart, is the same in another one. -/
structure Session.HandsOn (s t : Session) : Prop where
  held : t.machine.held = s.machine.held
  cwd : t.machine.cwd = s.machine.cwd
  streams : t.machine.streams = s.machine.streams
  signals : t.machine.signals = s.machine.signals
  pid : t.machine.pid = s.machine.pid
  next : t.machine.children.next = s.machine.children.next
  env : t.shell.env = s.shell.env

namespace Departure

/-- What is hidden by a veil makes no difference to a child that sets out, if somebody has it open
for writing. The child redirects its streams, and perhaps tells of something then. -/
theorem make_veil (programs : Programs) (command : Command) (background : Bool) {s t : Session}
    {v : Veil} (h : s.HandsOn t) (same : t.machine.store.veil v = s.machine.store.veil v)
    (fits : v.Fits s.machine.store.opened.size)
    (busy : ∀ id, v.hides id = true →
      s.machine.store.hasOpen s.machine.held id OpenFile.writes = true) :
    ∃ (r r' : Redirections) (told : Option (Handle × String)),
      let before := r.apply s.machine.cwd s.machine.streams s.machine.store
      let before' := r'.apply s.machine.cwd s.machine.streams t.machine.store
      before'.store.veil v = before.store.veil v ∧
      (∀ message ∈ told, message.1 = s.machine.streams.output ∨
        message.1 = before.streams.output) ∧
      (make programs s command background).store = before.store.telling told ∧
      make programs t command background =
        { make programs s command background with store := before'.store.telling told } := by
  have fits' : v.Fits t.machine.store.opened.size := by
    rwa [← Store.size_opened_veil (v := v), same, Store.size_opened_veil]
  let r := Redirections.ofCommand command background
  have stuck := r.stuck?_veil s.machine.cwd s.machine.streams s.machine.held fits
  have applied := r.apply_veil s.machine.cwd s.machine.streams fits
  rw [← same, r.stuck?_veil _ _ _ fits'] at stuck
  rw [← same, r.apply_veil _ _ fits'] at applied
  obtain ⟨failed, streams, stores⟩ := Redirected.mk.inj applied
  cases waits : r.stuck? s.machine.held s.machine.cwd s.machine.streams s.machine.store with
  | some reached =>
    rw [waits] at stuck
    obtain ⟨reached', waits', stuck⟩ := Option.map_eq_some_iff.mp stuck
    obtain ⟨-, streams, store⟩ := Redirected.mk.inj stuck
    have shape {store : Store} {reached : Redirected}
        (h : r.stuck? s.machine.held s.machine.cwd s.machine.streams store = some reached) :
        ∃ first : Redirections, first.apply s.machine.cwd s.machine.streams store = reached :=
      (Redirections.stuck?_apply h).elim (fun first => ⟨_, first.symm⟩) fun both => ⟨_, both.symm⟩
    obtain ⟨first, rfl⟩ := shape waits
    obtain ⟨first', rfl⟩ := shape waits'
    refine ⟨first, first', none, store, by simp, by simp only [make, r, waits]; rfl, ?_⟩
    simp only [make, r, waits, h.held, h.cwd, h.streams, waits', waiting, h.signals, streams]
    rfl
  | none =>
    rw [waits, Option.map_none, Option.map_eq_none_iff] at stuck
    cases failing : (r.apply s.machine.cwd s.machine.streams s.machine.store).failed with
    | some direction =>
      rw [failing] at failed
      refine ⟨r, r, some (s.machine.streams.output, r.diagnostic direction), stores, by simp,
        by simp only [make, r, waits, failing]; rfl, ?_⟩
      simp only [make, r, h.held, h.cwd, h.streams, waits, stuck, failing, failed]
      rfl
    | none =>
      rw [failing] at failed
      have finds := Image.find_eq_of_veil
        (r.apply s.machine.cwd s.machine.streams s.machine.store).streams.handle? s.machine.cwd
        stores (fun id hides => r.hasOpen_apply s.machine.cwd s.machine.streams (busy id hides))
        s.shell.env.inherited command.argv
      generalize found : Image.find
        (r.apply s.machine.cwd s.machine.streams s.machine.store).store _ _ _ _ _ = result
        at finds
      cases result with
      | error error =>
        refine ⟨r, r, some (
          (r.apply s.machine.cwd s.machine.streams s.machine.store).streams.output,
          (CommandError.notFound command.name).message ++ "\n"), stores, by simp,
          by simp only [make, r, waits, failing, found]; rfl, ?_⟩
        simp only [make, r, h.held, h.cwd, h.streams, h.env, waits, stuck, failing, failed, streams,
          found, finds]
        rfl
      | ok image =>
        refine ⟨r, r, none, stores, by simp, by simp only [make, r, waits, failing, found]; rfl, ?_⟩
        simp only [make, r, h.held, h.cwd, h.streams, h.env, h.pid, h.next, h.signals, waits, stuck,
          failing, failed, streams, found, finds]
        rfl

end Departure

end JobShell
