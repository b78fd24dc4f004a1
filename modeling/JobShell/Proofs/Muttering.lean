import JobShell.Proofs.Resembling
import JobShell.Proofs.Veiling

/-!
What is written to a file that nobody reads. Stores may differ in what is in that file and in where
it is gone on with. If all that is written there is added to its end, the same was added in both to
what they had. Children that take no notice of it leave it at that, and so does the shell.
-/

namespace JobShell

/-- An open file that the shell writes to, and the node behind it. -/
structure Outlet where
  handle : Handle
  node : NodeId

/-- Hides one file: what is in it, and where it is gone on with. -/
def Veil.over (node : Option NodeId) : Veil where
  hides id := node == some id
  place _ file := if node = some file.node then 0 else file.offset

/-- Hides all files. -/
def Veil.total : Veil where
  hides _ := true
  place _ _ := 0

private theorem Veil.over_fits (node : Option NodeId) (opened : Nat) :
    (Veil.over node).Fits opened := by
  intro handle _ file start
  simp [Veil.over, start]

namespace Store

def isPipe (store : Store) (id : NodeId) : Bool :=
  match store.files.get? id with
  | some (.pipe ..) => true
  | _ => false

/-- Whether all that is written to the file is added to its end. -/
def gathers (store : Store) (id : NodeId) : Bool :=
  store.isPipe id || !store.hasOpen (List.range store.opened.size) id fun file =>
    file.writes && !file.appends

def Leads (store : Store) (outlet : Outlet) : Prop :=
  ∃ file, store.opened[outlet.handle]? = some file ∧ file.node = outlet.node ∧ file.writes = true

/-- What is in the file behind the outlet, if there is one. -/
def collected (store : Store) (outlet : Option Outlet) : Bytes :=
  (outlet.map fun one => store.files.content one.node).getD []

/-- Stores that are the same but for the file that the shell writes to, if there is one. What was
added there is the same too: `way` is what the file had before in either store. -/
structure Unread (outlet : Option Outlet) (way : Bytes × Bytes) (x y : Store) : Prop where
  leads : ∀ one ∈ outlet, x.Leads one
  apart : y.veil (.over (outlet.map (·.node))) = x.veil (.over (outlet.map (·.node)))
  added : ∀ one ∈ outlet, x.gathers one.node = true → ∃ added,
    x.files.content one.node = way.1 ++ added ∧ y.files.content one.node = way.2 ++ added

variable {store x y x' y' : Store} {v : Veil} {outlet : Option Outlet} {way : Bytes × Bytes}
  {id : NodeId} {handle : Handle}

private theorem isPipe_veil (id : NodeId) : (store.veil v).isPipe id = store.isPipe id := by
  unfold isPipe
  rw [files_veil, FileSystem.get?_veil]
  rcases store.files.get? id with _ | ⟨_ | _ | _ | _ | _ | _ | _⟩ <;> cases v.hides id <;> rfl

private theorem gathers_veil (id : NodeId) : (store.veil v).gathers id = store.gathers id := by
  unfold gathers
  rw [isPipe_veil, size_opened_veil, hasOpen_veil _ _ fun _ _ => rfl]

private theorem gathers_eq_of_veil (same : y.veil v = x.veil v) (id : NodeId) :
    y.gathers id = x.gathers id := by
  rw [← gathers_veil (v := v), same, gathers_veil]

private theorem Leads.of_veil {one : Outlet} (h : x.Leads one) (same : y.veil v = x.veil v) :
    y.Leads one := by
  obtain ⟨file, there, node, writes⟩ := h
  have seen := congrArg (·.opened[one.handle]?) same
  simp only [opened_veil, there, Option.map_some] at seen
  obtain ⟨other, there', equal⟩ := Option.map_eq_some_iff.mp seen
  exact ⟨other, there', (congrArg OpenFile.node equal).trans node,
    (congrArg OpenFile.writes equal).trans writes⟩

private theorem veil_all_tryWrite (handle : Handle) (bytes : Bytes) :
    (store.tryWrite handle bytes).veil .total = store.veil .total :=
  veil_tryWrite (fun _ _ => ⟨rfl, fun _ => rfl⟩) bytes

theorem Unread.leads_right (h : x.Unread outlet way y) {one : Outlet} (hone : one ∈ outlet) :
    y.Leads one :=
  (h.leads one hone).of_veil h.apart

theorem Unread.gathers_eq (h : x.Unread outlet way y) (id : NodeId) : y.gathers id = x.gathers id :=
  gathers_eq_of_veil h.apart id

/-! Writing. -/

/-- What is written through an open file goes to the end of this one. -/
private def reaches (store : Store) (handle : Handle) (id : NodeId) : Bool :=
  store.hasOpen [handle] id OpenFile.writes &&
    (store.isPipe id ||
      match store.files.get? id with
      | some (.file ..) => true
      | _ => false)

private theorem reaches_veil : (store.veil v).reaches handle id = store.reaches handle id := by
  unfold reaches
  rw [isPipe_veil, hasOpen_veil _ _ fun _ _ => rfl, files_veil, FileSystem.get?_veil]
  rcases store.files.get? id with _ | ⟨_ | _ | _ | _ | _ | _ | _⟩ <;> cases v.hides id <;> rfl

private theorem appends_of_gathers (gathers : store.gathers id = true)
    (notPipe : store.isPipe id = false) {file : OpenFile}
    (there : store.opened[handle]? = some file) (node : file.node = id) (writes : file.writes = true) :
    file.appends = true := by
  have none : store.hasOpen (List.range store.opened.size) id
      (fun file => file.writes && !file.appends) = false := by
    simpa [Store.gathers, notPipe] using gathers
  have inside := (Array.getElem?_eq_some_iff.mp there).1
  have here := List.any_eq_false.mp none handle (List.mem_range.mpr inside)
  simpa [there, node, writes] using here

private theorem content_tryWrite_self {file : OpenFile} (there : store.opened[handle]? = some file)
    (gathers : store.gathers file.node = true) (bytes : Bytes) :
    (store.tryWrite handle bytes).files.content file.node =
      store.files.content file.node ++ if store.reaches handle file.node then bytes else [] := by
  have reaches : store.reaches handle file.node = (file.writes &&
      (store.isPipe file.node || match store.files.get? file.node with
        | some (.file ..) => true
        | _ => false)) := by
    simp [Store.reaches, hasOpen, there]
  rw [reaches]
  unfold tryWrite write
  rw [there]
  cases writes : file.writes with
  | false => simp [writes]
  | true =>
    simp only [writes, Bool.not_true, Bool.false_eq_true, if_false, Bool.true_and, isPipe,
      FileSystem.content, FileSystem.setContent]
    cases node : store.files.get? file.node with
    | none => simp [node]
    | some kind =>
      have inside := FileSystem.lt_size_of_get? node
      cases kind with
      | file mode content =>
        have appends : file.appends = true :=
          appends_of_gathers gathers (by simp [isPipe, node]) there rfl writes
        simp [appends, overwrite_length, inside]
      | pipe mode content => simp [inside]
      | device device =>
        cases device with
        | full => by_cases empty : bytes = [] <;> simp [node, empty]
        | _ => simp [node]
      | _ => simp [node]

private theorem content_tryWrite (gathers : store.gathers id = true) (handle : Handle)
    (bytes : Bytes) : (store.tryWrite handle bytes).files.content id =
      store.files.content id ++ if store.reaches handle id then bytes else [] := by
  cases there : store.opened[handle]? with
  | none => simp [tryWrite, write, reaches, hasOpen, there]
  | some file =>
    by_cases here : file.node = id
    · subst here
      exact content_tryWrite_self there gathers bytes
    · have hidden : (store.tryWrite handle bytes).veil (.over (some file.node)) =
          store.veil (.over (some file.node)) := by
        refine veil_tryWrite (fun other isOther => ?_) bytes
        obtain rfl := Option.some.inj (there.symm.trans isOther)
        simp [Veil.over]
      have shown : (Veil.over (some file.node)).hides id = false := by
        simpa [Veil.over] using here
      have unreached : store.reaches handle id = false := by
        simp [reaches, hasOpen, there, here]
      have files := congrArg (fun store => store.files.content id) hidden
      simp only [files_veil, FileSystem.content_veil shown] at files
      rw [files, unreached]
      simp

private theorem veil_over_veil (node : Option NodeId) :
    (store.veil (.over node)).veil (.over node) = store.veil (.over node) := by
  have emptied (kind : Node) : kind.emptied.emptied = kind.emptied := by
    cases kind <;> rfl
  simp only [veil, FileSystem.veil, Array.mapIdx_mapIdx, Function.comp_def, mk.injEq]
  constructor
  · congr 2
    funext id kind
    by_cases hidden : (Veil.over node).hides id = true <;> simp [hidden, emptied]
  · congr 1
    funext handle file
    by_cases hidden : node = some file.node <;> simp [Veil.over, hidden]

private theorem veil_over_tryWrite (node : Option NodeId) (handle : Handle) (bytes : Bytes) :
    ((store.veil (.over node)).tryWrite handle bytes).veil (.over node) =
      (store.tryWrite handle bytes).veil (.over node) := by
  by_cases hidden : ∀ file ∈ store.opened[handle]?, node = some file.node
  · have covered (file : OpenFile) (isHidden : node = some file.node) :
        (Veil.over node).hides file.node = true ∧
          ∀ offset, (Veil.over node).place handle { file with offset } =
            (Veil.over node).place handle file := by
      simp [Veil.over, isHidden]
    rw [veil_tryWrite fun file there => covered file (hidden file there), veil_tryWrite,
      veil_over_veil]
    intro file there
    rw [opened_veil] at there
    obtain ⟨under, isUnder, rfl⟩ := Option.map_eq_some_iff.mp there
    exact covered _ (hidden under isUnder)
  · rw [tryWrite_veil, veil_over_veil]
    intro file there
    have shown : node ≠ some file.node := by
      intro isHidden
      refine hidden fun other isOther => ?_
      obtain rfl := Option.some.inj (there.symm.trans isOther)
      exact isHidden
    simp [Veil.over, shown]

/-- The same text is written to both. -/
theorem Unread.tryWrite (h : x.Unread outlet way y) (handle : Handle) (bytes : Bytes) :
    (x.tryWrite handle bytes).Unread outlet way (y.tryWrite handle bytes) where
  leads one hone := (h.leads one hone).of_veil (veil_all_tryWrite handle bytes)
  apart := by rw [← veil_over_tryWrite, h.apart, veil_over_tryWrite]
  added one hone gathers := by
    rw [gathers_eq_of_veil (veil_all_tryWrite handle bytes)] at gathers
    have gathers' : y.gathers one.node = true := (h.gathers_eq _).trans gathers
    have reaches : y.reaches handle one.node = x.reaches handle one.node := by
      rw [← reaches_veil, h.apart, reaches_veil]
    obtain ⟨added, content, content'⟩ := h.added one hone gathers
    rw [content_tryWrite gathers, content_tryWrite gathers', content, content', reaches]
    exact ⟨_, List.append_assoc .., List.append_assoc ..⟩

/-- Nothing was added since now. -/
theorem unread_now (leads : ∀ one ∈ outlet, x.Leads one)
    (apart : y.veil (.over (outlet.map (·.node))) = x.veil (.over (outlet.map (·.node)))) :
    x.Unread outlet (x.collected outlet, y.collected outlet) y where
  leads := leads
  apart := apart
  added one hone _ := by
    obtain rfl := Option.mem_def.mp hone
    exact ⟨[], by simp [collected], by simp [collected]⟩

/-- What is written through the outlet in one of the stores only. -/
theorem Unread.tryWrite_left (h : x.Unread outlet way y) {one : Outlet} (hone : one ∈ outlet)
    (bytes : Bytes) : (x.tryWrite one.handle bytes).Unread outlet
      ((x.tryWrite one.handle bytes).collected outlet, y.collected outlet) y := by
  obtain ⟨file, there, node, -⟩ := h.leads one hone
  have unseen : (x.tryWrite one.handle bytes).veil (.over (outlet.map (·.node))) =
      x.veil (.over (outlet.map (·.node))) := by
    refine veil_tryWrite (fun other isOther => ?_) bytes
    obtain rfl := Option.some.inj (there.symm.trans isOther)
    obtain rfl := Option.mem_def.mp hone
    simp [Veil.over, node]
  exact unread_now (fun other hm => (h.leads other hm).of_veil unseen) (h.apart.trans unseen.symm)

/-! Redirecting streams. -/

private theorem gathers_of_holds {s s' : StreamState} (holds : s.Holds s')
    (pipe : s'.store.isPipe id = true → s.store.isPipe id = true)
    (gathers : s'.store.gathers id = true) : s.store.gathers id = true := by
  unfold Store.gathers at gathers ⊢
  rw [Bool.or_eq_true] at gathers ⊢
  refine gathers.imp pipe fun none => ?_
  rw [Bool.not_eq_true'] at none ⊢
  refine List.any_eq_false.mpr fun handle hm => ?_
  cases there : s.store.opened[handle]? with
  | none => simp
  | some file =>
    obtain ⟨offset, later⟩ := holds handle file there
    have inside := (Array.getElem?_eq_some_iff.mp later).1
    have here := List.any_eq_false.mp none handle (List.mem_range.mpr inside)
    simpa [later] using here

private theorem isPipe_eq_true : store.isPipe id = true ↔
    ∃ mode content, store.files.get? id = some (.pipe mode content) := by
  unfold isPipe
  split
  · next there => simp [there]
  · next other =>
    refine iff_of_false nofun ?_
    rintro ⟨mode, content, there⟩
    exact other _ _ there

private theorem same_of_writes {own : Nat → Option Handle} {cwd node : NodeId} {path : String}
    {mode : Nat} {files : FileSystem} (h : x.Writes own cwd path mode node files)
    (after : y.files = files) (pipe : id = node → y.isPipe id = true) :
    (y.isPipe id = true → x.isPipe id = true) ∧ y.files.content id = x.files.content id := by
  subst after
  by_cases here : id = node
  · subst here
    obtain ⟨mode, content, there⟩ := isPipe_eq_true.mp (pipe rfl)
    have self := there.symm.trans h.get?_self
    have before : x.files.get? id = some (.pipe mode content) := by
      cases before : x.files.get? id with
      | none => simp [cleared, before] at self
      | some kind => cases kind <;> simp_all [cleared]
    exact ⟨fun _ => isPipe_eq_true.mpr ⟨_, _, before⟩,
      by rw [FileSystem.content, FileSystem.content, there, before]⟩
  · unfold isPipe FileSystem.content
    obtain same | ⟨⟨_, after⟩, _, before⟩ := h.get?_of_ne here
    · rw [same]
      exact ⟨fun isPipe => isPipe, rfl⟩
    · rw [after, before]
      exact ⟨fun isPipe => isPipe, rfl⟩

private theorem gathered_apply (r : Redirections) (cwd : NodeId) (streams : Streams)
    (gathers : (r.apply cwd streams store).store.gathers id = true) :
    store.gathers id = true ∧
      (r.apply cwd streams store).store.files.content id = store.files.content id := by
  have calls := StreamState.redirect_calls cwd ⟨streams, store⟩ r
  have holds : StreamState.Holds ⟨streams, store⟩ (StreamState.redirect cwd ⟨streams, store⟩ r) :=
    StreamState.holds_redirect _ r
  change (StreamState.redirect cwd ⟨streams, store⟩ r).store.gathers id = true at gathers
  change _ ∧ (StreamState.redirect cwd ⟨streams, store⟩ r).store.files.content id = _
  suffices files : ((StreamState.redirect cwd ⟨streams, store⟩ r).store.isPipe id = true →
      store.isPipe id = true) ∧
      (StreamState.redirect cwd ⟨streams, store⟩ r).store.files.content id =
        store.files.content id from
    ⟨gathers_of_holds holds files.1 gathers, files.2⟩
  generalize StreamState.failure cwd _ r = failed,
    StreamState.redirect cwd ⟨streams, store⟩ r = s' at calls gathers ⊢
  have unchanged {s' : StreamState} (same : s'.store.files = store.files) :
      (s'.store.isPipe id = true → store.isPipe id = true) ∧
        s'.store.files.content id = store.files.content id := by
    unfold isPipe
    rw [same]
    exact ⟨fun isPipe => isPipe, rfl⟩
  cases calls with
  | unreadable => exact unchanged rfl
  | unwritable input => exact unchanged input.frame.2
  | @done between _ input output =>
    cases output with
    | inherited => exact unchanged input.frame.2
    | opened given writes =>
      obtain ⟨pipe, content⟩ := unchanged input.frame.2
      obtain ⟨laterPipe, laterContent⟩ := same_of_writes writes rfl fun here => by
        refine Bool.of_not_eq_false fun notPipe => ?_
        cases appends_of_gathers gathers notPipe Array.getElem?_push_size here.symm rfl
      exact ⟨fun isPipe => pipe (laterPipe isPipe), laterContent.trans content⟩

theorem Unread.apply (h : x.Unread outlet way y) (r r' : Redirections) (cwd : NodeId)
    (streams : Streams) (apart : (r'.apply cwd streams y).store.veil (.over (outlet.map (·.node))) =
      (r.apply cwd streams x).store.veil (.over (outlet.map (·.node)))) :
    (r.apply cwd streams x).store.Unread outlet way (r'.apply cwd streams y).store where
  leads one hone := by
    obtain ⟨file, there, leads⟩ := h.leads one hone
    have holds : StreamState.Holds ⟨streams, x⟩ (StreamState.redirect cwd ⟨streams, x⟩ r) :=
      StreamState.holds_redirect _ r
    obtain ⟨offset, later⟩ := holds one.handle file there
    exact ⟨_, later, leads⟩
  apart := apart
  added one hone gathers := by
    obtain ⟨before, content⟩ := gathered_apply r cwd streams gathers
    obtain ⟨-, content'⟩ := gathered_apply r' cwd streams ((gathers_eq_of_veil apart _).trans gathers)
    rw [content, content']
    exact h.added one hone before

end Store

/-- A child that sets out takes no notice of what was written to the outlet of the shell. -/
theorem Departure.make_unread (programs : Programs) (command : Command) (background : Bool)
    {s t : Session} {outlet : Option Outlet} {way : Bytes × Bytes} (hands : s.HandsOn t)
    (stores : s.machine.store.Unread outlet way t.machine.store)
    (held : ∀ one ∈ outlet, one.handle ∈ s.machine.held) :
    ∃ store, (make programs s command background).store.Unread outlet way store ∧
      make programs t command background = { make programs s command background with store } := by
  have busy (id : NodeId) (hidden : (Veil.over (outlet.map (·.node))).hides id = true) :
      s.machine.store.hasOpen s.machine.held id OpenFile.writes = true := by
    obtain ⟨one, hone, rfl⟩ := Option.map_eq_some_iff.mp (beq_iff_eq.mp hidden)
    obtain ⟨file, there, node, writes⟩ := stores.leads one hone
    exact List.any_eq_true.mpr ⟨one.handle, held one hone, by simp [there, node, writes]⟩
  obtain ⟨r, r', told, apart, -, store, makes⟩ :=
    make_veil programs command background hands stores.apart (Veil.over_fits _ _) busy
  refine ⟨_, ?_, makes⟩
  rw [store]
  have redirected := stores.apply r r' s.machine.cwd s.machine.streams apart
  cases told with
  | none => exact redirected
  | some message => exact redirected.tryWrite _ _

end JobShell
