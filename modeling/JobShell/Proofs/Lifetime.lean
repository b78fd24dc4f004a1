import JobShell.Children
import Mathlib.Data.List.Forall2
import Mathlib.Data.List.Nodup

/-!
What becomes of the children while nobody waits for them. A child keeps its number, stays held, and
once it has ended nothing changes how; numbers are given out once and are never reused.
-/

namespace JobShell

/-- What can become of a child that nobody waits for. Nothing at all becomes of the child `apart`,
whose life is told by somebody else. -/
structure Child.Lives (apart : Option Pid) (child later : Child) : Prop where
  pid : later.pid = child.pid
  policy : later.policy = child.policy
  held : later.state.isHeld = child.state.isHeld
  ending : ∀ ending, child.state.ending? = some ending → later.state = child.state
  apart : apart = some child.pid → later = child

/-- What can become of a life that nobody waits for: it stays held, and an end that has come stays
what it is. -/
structure ChildState.Lives (state later : ChildState) : Prop where
  held : later.isHeld = state.isHeld
  ending : ∀ ending, state.ending? = some ending → later = state

def ChildState.released : ChildState → ChildState
  | .ended ending => .gone ending
  | state => state

namespace Child
variable {apart : Option Pid} {child later last : Child}

theorem Lives.state (h : child.Lives apart later) : child.state.Lives later.state :=
  ⟨h.held, h.ending⟩

theorem Lives.refl (apart : Option Pid) (child : Child) : child.Lives apart child :=
  ⟨rfl, rfl, rfl, fun _ _ => rfl, fun _ => rfl⟩

theorem Lives.trans (first : child.Lives apart later) (second : later.Lives apart last) :
    child.Lives apart last where
  pid := second.pid.trans first.pid
  policy := second.policy.trans first.policy
  held := second.held.trans first.held
  ending e he := by
    have h := first.ending e he
    rw [← h]
    exact second.ending e (h ▸ he)
  apart ha := by
    have h := first.apart ha
    subst h
    exact second.apart ha

/-- A child that is not set apart may be looked at without saying who is. -/
theorem Lives.of_ne (h : child.Lives none later) (ha : apart ≠ some child.pid) :
    child.Lives apart later :=
  ⟨h.pid, h.policy, h.held, h.ending, fun he => absurd he ha⟩

theorem Lives.weaken (h : child.Lives apart later) : child.Lives none later :=
  ⟨h.pid, h.policy, h.held, h.ending, fun he => by cases he⟩

/-- A child that has not ended is held. -/
theorem isHeld_of_ending?_eq_none {state : ChildState} (h : state.ending? = none) :
    state.isHeld = true := by
  cases state <;> simp_all [ChildState.ending?, ChildState.isHeld]

theorem goOn_lives (h : child.state.ending? = none) (now : Nat) (behaviour : Behaviour) :
    child.Lives none (child.goOn now behaviour) := by
  have hh := isHeld_of_ending?_eq_none h
  cases behaviour <;>
    exact ⟨rfl, rfl, by rw [hh]; rfl, fun e he => by simp [h] at he, by simp⟩

private theorem kill_lives (child : Child) (now : Nat) (signal : Signal) :
    child.Lives none (child.kill now signal) := by
  obtain ⟨pid, policy, group, state, rest⟩ := child
  cases state with
  | running since behaviour =>
    cases behaviour <;>
      exact ⟨rfl, rfl, rfl, fun e he => by simp [ChildState.ending?] at he, by simp⟩
  | stopped since behaviour held =>
    cases behaviour <;>
      exact ⟨rfl, rfl, rfl, fun e he => by simp [ChildState.ending?] at he, by simp⟩
  | ended ending => exact .refl _ _
  | gone ending => exact .refl _ _

private theorem take_lives (child : Child) (now : Nat) (signal : Signal) :
    child.Lives none (child.take now signal) := by
  cases hs : child.state with
  | running since behaviour =>
    have hn : child.state.ending? = none := by simp [hs, ChildState.ending?]
    have stops : child.Lives none { child with state := .stopped since behaviour [] } :=
      ⟨rfl, rfl, by simp [hs, ChildState.isHeld], fun e he => by simp [hn] at he, by simp⟩
    simp only [take, hs]
    split
    · exact .refl _ _
    · exact goOn_lives hn _ _
    · split
      · exact .refl _ _
      · exact .refl _ _
      · exact stops
      · exact kill_lives _ _ _
  | stopped since behaviour held => simpa only [take, hs] using Lives.refl none child
  | ended ending => simpa only [take, hs] using Lives.refl none child
  | gone ending => simpa only [take, hs] using Lives.refl none child

private theorem foldl_take_lives (now : Nat) (signals : List Signal) (child : Child) :
    child.Lives none (signals.foldl (fun child signal => child.take now signal) child) := by
  induction signals generalizing child with
  | nil => exact .refl _ _
  | cons signal rest ih => exact (take_lives child now signal).trans (ih _)

/-- Whatever signal is sent to a child, it stays held and an end that has come stays what it is. -/
theorem receive_lives (child : Child) (now : Nat) (signal : Signal) :
    child.Lives none (child.receive now signal) := by
  unfold receive
  split
  · next since behaviour held hs =>
    have hn : child.state.ending? = none := by simp [hs, ChildState.ending?]
    have becomes (state : ChildState) (hh : state.isHeld = true) :
        child.Lives none { child with state } :=
      ⟨rfl, rfl, by rw [hs]; exact hh, fun e he => by simp [hn] at he, by simp⟩
    split
    · exact kill_lives _ _ _
    · split
      · exact (becomes _ rfl).trans ((take_lives _ now signal).trans (foldl_take_lives now held _))
      · split
        · exact .refl _ _
        · exact becomes _ rfl
  · exact take_lives _ _ _

def released (child : Child) : Child :=
  match child.state with
  | .ended ending => { child with state := .gone ending }
  | _ => child

theorem released_pid (child : Child) : child.released.pid = child.pid := by
  unfold released
  split <;> rfl

theorem released_state (child : Child) : child.released.state = child.state.released := by
  unfold released
  split
  · next ending hs => rw [hs]; rfl
  · next hs => cases h : child.state <;> simp_all [ChildState.released]

end Child

namespace Children

def pids (c : Children) : List Pid :=
  c.all.map (·.pid)

/-- No number is given out twice: those in use are different, positive, and below the next. -/
structure Numbered (c : Children) : Prop where
  nodup : c.pids.Nodup
  pos : ∀ child ∈ c.all, 0 < child.pid
  lt_next : ∀ child ∈ c.all, child.pid < c.next
  next_pos : 0 < c.next

/-- What can become of the children while nobody waits for them and none is started. -/
structure Live (apart : Option Pid) (c later : Children) : Prop where
  next : later.next = c.next
  all : List.Forall₂ (Child.Lives apart) c.all later.all

variable {apart : Option Pid} {c later last : Children}

theorem Live.refl (apart : Option Pid) (c : Children) : c.Live apart c :=
  ⟨rfl, List.forall₂_same.mpr fun child _ => Child.Lives.refl apart child⟩

private theorem forall₂_lives_trans {xs ys zs : List Child}
    (first : List.Forall₂ (Child.Lives apart) xs ys)
    (second : List.Forall₂ (Child.Lives apart) ys zs) :
    List.Forall₂ (Child.Lives apart) xs zs := by
  induction first generalizing zs with
  | nil => simpa using second
  | cons h _ ih =>
    cases second with
    | cons h' hs' => exact .cons (h.trans h') (ih hs')

theorem Live.trans (first : c.Live apart later) (second : later.Live apart last) :
    c.Live apart last :=
  ⟨second.next.trans first.next, forall₂_lives_trans first.all second.all⟩

theorem Live.weaken (h : c.Live apart later) : c.Live none later :=
  ⟨h.next, h.all.imp fun _ _ => Child.Lives.weaken⟩

private theorem pids_eq_of_forall₂ {xs ys : List Child}
    (h : List.Forall₂ (Child.Lives apart) xs ys) : ys.map (·.pid) = xs.map (·.pid) := by
  induction h with
  | nil => rfl
  | cons h _ ih => simp [h.pid, ih]

theorem Live.pids_eq (h : c.Live apart later) : later.pids = c.pids :=
  pids_eq_of_forall₂ h.all

private theorem mem_pids {pid : Pid} : pid ∈ c.pids ↔ ∃ child ∈ c.all, child.pid = pid :=
  List.mem_map

private theorem exists_of_mem_right {R : Child → Child → Prop} {xs ys : List Child}
    (h : List.Forall₂ R xs ys) {y : Child} (hm : y ∈ ys) : ∃ x ∈ xs, R x y := by
  induction h with
  | nil => cases hm
  | cons hd _ ih =>
    rcases List.mem_cons.mp hm with rfl | hm
    · exact ⟨_, List.mem_cons_self, hd⟩
    · obtain ⟨x, hx, hr⟩ := ih hm
      exact ⟨x, List.mem_cons_of_mem _ hx, hr⟩

/-- Every child that is there later was there before. -/
theorem Live.before (h : c.Live apart later) {child' : Child} (hm : child' ∈ later.all) :
    ∃ child ∈ c.all, child.Lives apart child' :=
  exists_of_mem_right h.all hm

/-- Every child that is there before is there later. -/
theorem Live.after (h : c.Live apart later) {child : Child} (hm : child ∈ c.all) :
    ∃ child' ∈ later.all, child.Lives apart child' :=
  exists_of_mem_right h.all.flip hm

/-- Whether the children are numbered is up to the numbers alone. -/
theorem Numbered.of_pids_eq (h : c.Numbered) (pids : later.pids = c.pids)
    (next : later.next = c.next) : later.Numbered := by
  have before : ∀ child ∈ later.all, ∃ old ∈ c.all, old.pid = child.pid := fun child hm =>
    mem_pids.mp (pids ▸ mem_pids.mpr ⟨child, hm, rfl⟩)
  refine ⟨pids ▸ h.nodup, fun child hm => ?_, fun child hm => ?_, next ▸ h.next_pos⟩
  · obtain ⟨old, ho, hp⟩ := before child hm
    exact hp ▸ h.pos old ho
  · obtain ⟨old, ho, hp⟩ := before child hm
    exact next ▸ hp ▸ h.lt_next old ho

theorem Numbered.live (h : c.Numbered) (hl : c.Live apart later) : later.Numbered :=
  h.of_pids_eq hl.pids_eq hl.next

/-- Two children with one number are one child. -/
theorem Numbered.eq_of_pid_eq (h : c.Numbered) {first second : Child} (hf : first ∈ c.all)
    (hs : second ∈ c.all) (he : first.pid = second.pid) : first = second :=
  List.inj_on_of_nodup_map h.nodup hf hs he

private theorem Numbered.find?_eq_some (h : c.Numbered) {child : Child} (hm : child ∈ c.all) :
    c.find? child.pid = some child := by
  cases hf : c.find? child.pid with
  | none => simpa using List.find?_eq_none.mp hf child hm
  | some found =>
    have hp : found.pid = child.pid := by simpa using List.find?_some hf
    rw [h.eq_of_pid_eq (List.mem_of_find?_eq_some hf) hm hp]

theorem Numbered.state?_eq (h : c.Numbered) {child : Child} (hm : child ∈ c.all) :
    c.state? child.pid = some child.state := by
  rw [state?, h.find?_eq_some hm, Option.map_some]

theorem mem_of_find?_eq_some {pid : Pid} {child : Child} (h : c.find? pid = some child) :
    child ∈ c.all ∧ child.pid = pid :=
  ⟨List.mem_of_find?_eq_some h, by simpa using List.find?_some h⟩

theorem exists_of_state?_eq_some {pid : Pid} {state : ChildState} (h : c.state? pid = some state) :
    ∃ child ∈ c.all, child.pid = pid ∧ child.state = state := by
  obtain ⟨child, hf, hs⟩ := Option.map_eq_some_iff.mp h
  obtain ⟨hm, hp⟩ := mem_of_find?_eq_some hf
  exact ⟨child, hm, hp, hs⟩

theorem Numbered.state?_eq_some (hn : c.Numbered) {pid : Pid} {state : ChildState} :
    c.state? pid = some state ↔ ∃ child ∈ c.all, child.pid = pid ∧ child.state = state := by
  refine ⟨exists_of_state?_eq_some, ?_⟩
  rintro ⟨child, hm, rfl, rfl⟩
  exact hn.state?_eq hm

/-- Only numbers that were given out belong to children. -/
theorem Numbered.bounds (h : c.Numbered) {pid : Pid} {state : ChildState}
    (hs : c.state? pid = some state) : 0 < pid ∧ pid < c.next := by
  obtain ⟨child, hm, rfl, _⟩ := exists_of_state?_eq_some hs
  exact ⟨h.pos child hm, h.lt_next child hm⟩

theorem Live.state?_after (h : c.Live apart later) (hn : c.Numbered) {pid : Pid}
    {state : ChildState} (hs : c.state? pid = some state) :
    ∃ state', later.state? pid = some state' ∧ state.Lives state' := by
  obtain ⟨child, hm, rfl, rfl⟩ := exists_of_state?_eq_some hs
  obtain ⟨child', hm', hlives⟩ := h.after hm
  exact ⟨child'.state, (hn.live h).state?_eq_some.mpr ⟨child', hm', hlives.pid, rfl⟩, hlives.state⟩

theorem Live.state?_before (h : c.Live apart later) (hn : c.Numbered) {pid : Pid}
    {state' : ChildState} (hs : later.state? pid = some state') :
    ∃ state, c.state? pid = some state ∧ state.Lives state' := by
  obtain ⟨child', hm', rfl, rfl⟩ := exists_of_state?_eq_some hs
  obtain ⟨child, hm, hlives⟩ := h.before hm'
  exact ⟨child.state, hn.state?_eq_some.mpr ⟨child, hm, hlives.pid.symm, rfl⟩, hlives.state⟩

/-- An update that is a possible life for the child it concerns. -/
theorem update_live {pid : Pid} {f : Child → Child}
    (h : ∀ child ∈ c.all, child.pid = pid → child.Lives apart (f child)) :
    c.Live apart (c.update pid f) := by
  refine ⟨rfl, ?_⟩
  rw [update, List.forall₂_map_right_iff, List.forall₂_same]
  intro child hm
  split
  · next hp => exact h child hm hp
  · exact .refl _ _

theorem setClock_live (apart : Option Pid) (c : Children) (now : Nat) :
    c.Live apart (c.setClock now) :=
  ⟨rfl, (Live.refl apart c).all⟩

theorem signal_live (c : Children) {pid : Pid} (ha : apart ≠ some pid) (signal : Signal) :
    c.Live apart (c.signal pid signal) :=
  update_live fun child _ hp => (child.receive_lives c.now signal).of_ne (by rwa [hp])

/-- A child was started; nobody was waited for but perhaps that child. -/
structure Joined (c : Children) (child : Child) (later : Children) : Prop where
  number : child.pid = c.next
  all : ∃ old, later.all = old ++ [child] ∧ List.Forall₂ (Child.Lives none) c.all old
  next : later.next = c.next + 1

variable {child : Child}

theorem start_joined (c : Children) (policy : SignalPolicy) (behaviour : Behaviour) :
    ∃ child, c.Joined child (c.start policy behaviour).2 ∧
      ((∃ since behaviour, child.state = .running since behaviour) ∨
        ∃ ending, child.state = .ended ending) := by
  have same := (Live.refl none c).all
  cases behaviour with
  | ended ending rest => exact ⟨_, ⟨rfl, ⟨_, rfl, same⟩, rfl⟩, .inr ⟨_, rfl⟩⟩
  | later delay deed next reaction caught rest holds =>
    exact ⟨_, ⟨rfl, ⟨_, rfl, same⟩, rfl⟩, .inl ⟨_, _, rfl⟩⟩

private theorem forall₂_concat_left {xs zs : List Child} {x : Child}
    (h : List.Forall₂ (Child.Lives none) (xs ++ [x]) zs) :
    ∃ ys y, zs = ys ++ [y] ∧ List.Forall₂ (Child.Lives none) xs ys ∧ x.Lives none y := by
  induction xs generalizing zs with
  | nil =>
    obtain ⟨y, ys, hy, hys, rfl⟩ := List.forall₂_cons_left_iff.mp h
    obtain rfl := List.forall₂_nil_left_iff.mp hys
    exact ⟨[], y, rfl, .nil, hy⟩
  | cons first xs ih =>
    obtain ⟨z, zs, hz, hzs, rfl⟩ := List.forall₂_cons_left_iff.mp h
    obtain ⟨ys, y, rfl, hys, hy⟩ := ih hzs
    exact ⟨z :: ys, y, rfl, .cons hz hys, hy⟩

theorem Joined.live (h : c.Joined child later) (hl : later.Live none last) :
    ∃ child', child.Lives none child' ∧ c.Joined child' last := by
  obtain ⟨old, hall, hold⟩ := h.all
  have hlast := hl.all
  rw [hall] at hlast
  obtain ⟨older, child', hall', holder, hlives⟩ := forall₂_concat_left hlast
  exact ⟨child', hlives, hlives.pid.trans h.number,
    ⟨older, hall', forall₂_lives_trans hold holder⟩, hl.next.trans h.next⟩

theorem Joined.mem (h : c.Joined child later) : child ∈ later.all := by
  obtain ⟨old, hall, _⟩ := h.all
  simp [hall]

/-- A child that is there afterwards is the new one or was there before. -/
theorem Joined.before (h : c.Joined child later) {child' : Child} (hm : child' ∈ later.all) :
    child' = child ∨ ∃ other ∈ c.all, other.Lives none child' := by
  obtain ⟨old, hall, hold⟩ := h.all
  rw [hall] at hm
  rcases List.mem_append.mp hm with hm | hm
  · exact .inr (exists_of_mem_right hold hm)
  · exact .inl (List.mem_singleton.mp hm)

theorem Joined.after (h : c.Joined child later) {other : Child} (hm : other ∈ c.all) :
    ∃ child' ∈ later.all, other.Lives none child' := by
  obtain ⟨old, hall, hold⟩ := h.all
  obtain ⟨child', hc, hlives⟩ := exists_of_mem_right hold.flip hm
  exact ⟨child', hall ▸ List.mem_append_left _ hc, hlives⟩

theorem Joined.pids_eq (h : c.Joined child later) : later.pids = c.pids ++ [c.next] := by
  obtain ⟨old, hall, hold⟩ := h.all
  rw [pids, hall, List.map_append, pids_eq_of_forall₂ hold, ← h.number]
  rfl

theorem Numbered.joined (h : c.Numbered) (hj : c.Joined child later) : later.Numbered where
  nodup := by
    rw [hj.pids_eq]
    refine List.nodup_append.mpr ⟨h.nodup, List.nodup_singleton _, fun pid hp other ho => ?_⟩
    obtain ⟨first, hf, rfl⟩ := mem_pids.mp hp
    rw [List.mem_singleton.mp ho]
    exact Int.ne_of_lt (h.lt_next first hf)
  pos child' hm := by
    rcases hj.before hm with rfl | ⟨other, ho, hlives⟩
    · exact hj.number ▸ h.next_pos
    · exact hlives.pid ▸ h.pos other ho
  lt_next child' hm := by
    rw [hj.next]
    rcases hj.before hm with rfl | ⟨other, ho, hlives⟩
    · exact hj.number ▸ Int.lt_succ _
    · exact hlives.pid ▸ Int.lt_trans (h.lt_next other ho) (Int.lt_succ _)
  next_pos := hj.next ▸ Int.lt_trans h.next_pos (Int.lt_succ _)

theorem Joined.state?_self (h : c.Joined child later) (hn : c.Numbered) :
    later.state? child.pid = some child.state :=
  (hn.joined h).state?_eq h.mem

theorem Joined.state?_after (h : c.Joined child later) (hn : c.Numbered) {pid : Pid}
    {state : ChildState} (hs : c.state? pid = some state) :
    ∃ state', later.state? pid = some state' ∧ state.Lives state' := by
  obtain ⟨other, hm, rfl, rfl⟩ := exists_of_state?_eq_some hs
  obtain ⟨child', hm', hlives⟩ := h.after hm
  exact ⟨child'.state, (hn.joined h).state?_eq_some.mpr ⟨child', hm', hlives.pid, rfl⟩,
    hlives.state⟩

theorem Joined.state?_before (h : c.Joined child later) (hn : c.Numbered) {pid : Pid}
    {state' : ChildState} (hs : later.state? pid = some state') :
    pid = child.pid ∧ state' = child.state ∨
      ∃ state, c.state? pid = some state ∧ state.Lives state' := by
  obtain ⟨child', hm', rfl, rfl⟩ := exists_of_state?_eq_some hs
  rcases h.before hm' with rfl | ⟨other, ho, hlives⟩
  · exact .inl ⟨rfl, rfl⟩
  · exact .inr ⟨other.state, hn.state?_eq_some.mpr ⟨other, ho, hlives.pid.symm, rfl⟩,
      hlives.state⟩

theorem release_eq_update (c : Children) (pid : Pid) :
    c.release pid = c.update pid Child.released :=
  rfl

private theorem find?_update {pid : Pid} {f : Child → Child}
    (hf : ∀ child, (f child).pid = child.pid) (other : Pid) : (c.update pid f).find? other =
      if other = pid then (c.find? other).map f else c.find? other := by
  simp only [find?, update, List.find?_map]
  have hsame : ((fun child : Child => child.pid == other) ∘
      fun child => if child.pid = pid then f child else child) = (·.pid == other) := by
    funext child
    by_cases hp : child.pid = pid <;> simp [hp, hf]
  rw [hsame]
  cases hfound : c.all.find? (·.pid == other) with
  | none => simp
  | some child =>
    have hp : child.pid = other := by simpa using List.find?_some hfound
    by_cases ho : other = pid <;> simp [hp, ho]

theorem state?_release (c : Children) (pid other : Pid) : (c.release pid).state? other =
    if other = pid then (c.state? other).map ChildState.released else c.state? other := by
  rw [release_eq_update, state?, find?_update Child.released_pid]
  split <;> simp [state?, Function.comp_def, Child.released_state]

theorem Joined.release (hn : c.Numbered) (h : c.Joined child later) :
    c.Joined child.released (later.release child.pid) := by
  obtain ⟨old, hall, hold⟩ := h.all
  refine ⟨child.released_pid.trans h.number, ⟨old, ?_, hold⟩, h.next⟩
  rw [release_eq_update, update, hall, List.map_append]
  have kept : ∀ other ∈ old, (if other.pid = child.pid then other.released else other) = other := by
    intro other ho
    obtain ⟨before, hb, hlives⟩ := exists_of_mem_right hold ho
    have hlt := hn.lt_next before hb
    rw [← hlives.pid, ← h.number] at hlt
    exact if_neg (Int.ne_of_lt hlt)
  rw [List.map_congr_left kept]
  simp

end Children

end JobShell
