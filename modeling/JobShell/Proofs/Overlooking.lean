import JobShell.Proofs.Elapse
import JobShell.Session.Execute

/-!
Machines whose files differ in ways that their children overlook. Whatever a child does, it does to
both stores alike, it sends the same signals, and it goes on in the same way; so time goes by on both
machines alike. Several ways in which stores may differ are looked at together.
-/

namespace JobShell

section
variable {ι : Type} (alike : ι → Scene → Scene → Prop) (same : ι → Store → Store → Prop)

/-- Deeds that leave stores that differ in one of the ways, and send the same. -/
structure Deed.Like (way : ι) (d e : Deed) : Prop where
  store : same way d.store e.store
  sent : e.sent = d.sent

/-- What goes on does not depend on how scenes differ that are alike in one of the ways, and leaves
stores that differ in that way. -/
inductive Activity.Indifferent : Activity → Prop
  | quiet : Indifferent .quiet
  | later {delay : Nat} {deed : Scene → Deed} {next : Scene → Activity} {holds : List Handle}
      (deeds : ∀ way x y, alike way x y → Deed.Like same way (deed x) (deed y))
      (goes : ∀ way x y, alike way x y → next y = next x)
      (onward : ∀ way x y, alike way x y → Indifferent (next x)) :
      Indifferent (.later delay deed next holds)

/-- The same for a behaviour, whatever signals may come. -/
inductive Behaviour.Indifferent : Behaviour → Prop
  | ended {ending : Ending} {rest : Activity} (left : rest.Indifferent alike same) :
      Indifferent (.ended ending rest)
  | later {delay : Nat} {deed : Scene → Deed} {next : Scene → Behaviour}
      {reaction : Signal → Reaction} {caught : Signal → Nat → Behaviour} {rest : Nat → Activity}
      {holds : List Handle}
      (deeds : ∀ way x y, alike way x y → Deed.Like same way (deed x) (deed y))
      (goes : ∀ way x y, alike way x y → next y = next x)
      (onward : ∀ way x y, alike way x y → Indifferent (next x))
      (interrupted : ∀ signal time, Indifferent (caught signal time))
      (left : ∀ time, (rest time).Indifferent alike same) :
      Indifferent (.later delay deed next reaction caught rest holds)

def ChildState.Indifferent : ChildState → Prop
  | running _ behaviour | stopped _ behaviour _ => behaviour.Indifferent alike same
  | ended _ | gone _ => True

/-- What the child does, and what it left behind, does not depend on the differences. -/
structure Child.Indifferent (child : Child) : Prop where
  state : child.state.Indifferent alike same
  left : child.rest.2.Indifferent alike same

/-- Scenes that differ in one of the ways, and only in their stores. -/
structure Scene.Like (way : ι) (x y : Scene) : Prop where
  store : same way x.store y.store
  present : y.present = x.present

/-- What goes on does not depend on the differences between stores, and leaves them as they are. -/
abbrev Activity.Overlooks (activity : Activity) : Prop :=
  activity.Indifferent (Scene.Like same) same

abbrev Behaviour.Overlooks (behaviour : Behaviour) : Prop :=
  behaviour.Indifferent (Scene.Like same) same

abbrev Child.Overlooks (child : Child) : Prop :=
  child.Indifferent (Scene.Like same) same

def Children.Overlook (c : Children) : Prop :=
  ∀ child ∈ c.all, child.Overlooks same

/-- Machines that differ in their stores only, in one of the ways, with children that overlook that.
The process on both is that of the machine `frame`. -/
structure Machine.Like (frame : Machine) (way : ι) (m m' : Machine) : Prop where
  rest : m' = { m with store := m'.store }
  store : same way m.store m'.store
  children : m.children.Overlook same
  pid : m.pid = frame.pid
  cwd : m.cwd = frame.cwd
  streams : m.streams = frame.streams

end

variable {ι : Type} {same : ι → Store → Store → Prop} {way : ι}

/-! The children. -/

namespace Child
variable {alike : ι → Scene → Scene → Prop} {child : Child} {behaviour : Behaviour}

theorem Indifferent.running {since : Nat} (h : child.Indifferent alike same)
    (hs : child.state = .running since behaviour) : behaviour.Indifferent alike same := by
  have state := h.state
  rwa [hs] at state

theorem Indifferent.goOn (h : child.Indifferent alike same)
    (going : behaviour.Indifferent alike same) (now : Nat) :
    (child.goOn now behaviour).Indifferent alike same := by
  cases going with
  | ended left => exact ⟨trivial, left⟩
  | later deeds goes onward interrupted left =>
    exact ⟨.later deeds goes onward interrupted left, h.left⟩

theorem Indifferent.kill (h : child.Indifferent alike same) (now : Nat) (signal : Signal) :
    (child.kill now signal).Indifferent alike same := by
  obtain ⟨pid, policy, group, state, rest⟩ := child
  cases state with
  | running since behaviour | stopped since behaviour held =>
    cases h.state with
    | ended left => exact ⟨trivial, h.left⟩
    | later deeds goes onward interrupted left => exact ⟨trivial, left _⟩
  | ended ending | gone ending => exact h

theorem Indifferent.take (h : child.Indifferent alike same) (now : Nat) (signal : Signal) :
    (child.take now signal).Indifferent alike same := by
  cases hs : child.state with
  | running since behaviour =>
    have going : behaviour.Indifferent alike same := h.running hs
    simp only [Child.take, hs]
    split
    · exact h
    · cases going with
      | later deeds goes onward interrupted left => exact h.goOn (interrupted _ _) now
    · split
      · exact h
      · exact h
      · exact ⟨going, h.left⟩
      · exact h.kill now signal
  | stopped since behaviour held => simpa only [Child.take, hs] using h
  | ended ending => simpa only [Child.take, hs] using h
  | gone ending => simpa only [Child.take, hs] using h

theorem Indifferent.receive (h : child.Indifferent alike same) (now : Nat) (signal : Signal) :
    (child.receive now signal).Indifferent alike same := by
  unfold Child.receive
  split
  · next since behaviour held hs =>
    have going : behaviour.Indifferent alike same := by
      have state := h.state
      rwa [hs] at state
    split
    · exact h.kill now signal
    · split
      · have resumed :
            ({ child with state := .running since behaviour } : Child).Indifferent alike same :=
          ⟨going, h.left⟩
        exact List.foldlRecOn _ _ (resumed.take now signal) fun _ hc _ _ => hc.take now _
      · split
        · exact h
        · exact ⟨going, h.left⟩
  · exact h.take now signal

theorem Indifferent.released (h : child.Indifferent alike same) :
    child.released.Indifferent alike same := by
  unfold Child.released
  split
  · exact ⟨trivial, h.left⟩
  · exact h

end Child

namespace Children
variable {c : Children}

theorem Overlook.update (h : c.Overlook same) (pid : Pid) {f : Child → Child}
    (keeps : ∀ child ∈ c.all, child.Overlooks same → (f child).Overlooks same) :
    (c.update pid f).Overlook same := by
  intro child hm
  obtain ⟨before, hb, rfl⟩ := List.mem_map.mp hm
  split
  · exact keeps before hb (h before hb)
  · exact h before hb

theorem Overlook.signal (h : c.Overlook same) (pid : Pid) (signal : Signal) :
    (c.signal pid signal).Overlook same :=
  h.update pid fun _ _ hc => hc.receive c.now signal

theorem Overlook.release (h : c.Overlook same) (pid : Pid) : (c.release pid).Overlook same := by
  rw [release_eq_update]
  exact h.update pid fun _ _ hc => hc.released

theorem Overlook.start (h : c.Overlook same) (policy : SignalPolicy) {behaviour : Behaviour}
    (going : behaviour.Overlooks same) : (c.start policy behaviour).2.Overlook same := by
  intro child hm
  rcases List.mem_append.mp hm with hm | hm
  · exact h child hm
  · obtain rfl := List.mem_singleton.mp hm
    have fresh : Child.Overlooks same
        { pid := c.next, policy, group := c.group, state := .running c.now behaviour } :=
      ⟨going, .quiet⟩
    exact fresh.goOn going c.now

theorem Overlook.collect (h : c.Overlook same) (pid : Pid) : (c.collect pid).2.Overlook same := by
  unfold Children.collect
  split
  · exact h.release pid
  · exact h

theorem Overlook.reap (h : c.Overlook same) (jobs : Registry) :
    (jobs.reap c).state.Overlook same :=
  Registry.reap_keeps (fun _ pid hc => hc.release pid) jobs h

end Children

/-! The machines. -/

namespace Machine
variable {frame m m' : Machine}

theorem Like.exists_store (h : Like same frame way m m') : ∃ store, m' = { m with store } :=
  ⟨_, h.rest⟩

theorem Like.signals (h : Like same frame way m m') : m'.signals = m.signals := by
  rw [h.rest]

theorem Like.scene (h : Like same frame way m m') : Scene.Like same way m.scene m'.scene := by
  obtain ⟨store, rfl⟩ := h.exists_store
  exact ⟨h.store, rfl⟩

private theorem Like.withChildren (h : Like same frame way m m') {c : Children}
    (hc : c.Overlook same) :
    Like same frame way { m with children := c } { m' with children := c } where
  rest := by rw [h.rest]
  store := h.store
  children := hc
  pid := h.pid
  cwd := h.cwd
  streams := h.streams

theorem Like.withSignals (h : Like same frame way m m') (signals : SignalState) :
    Like same frame way { m with signals } { m' with signals } where
  rest := by rw [h.rest]
  store := h.store
  children := h.children
  pid := h.pid
  cwd := h.cwd
  streams := h.streams

theorem Like.withStore (h : Like same frame way m m') {x y : Store} (store : same way x y) :
    Like same frame way { m with store := x } { m' with store := y } where
  rest := by rw [h.rest]
  store := store
  children := h.children
  pid := h.pid
  cwd := h.cwd
  streams := h.streams

theorem Like.deliver (h : Like same frame way m m') (pid : Pid) (signal : Signal) :
    Like same frame way (m.deliver pid signal) (m'.deliver pid signal) := by
  obtain ⟨store, rfl⟩ := h.exists_store
  unfold Machine.deliver
  dsimp only
  split
  · split
    · exact h.withSignals _
    · exact h
  · exact h.withChildren (h.children.signal pid signal)

/-- The two machines of a pair are alike, and what comes with them is the same. -/
def LikeWith (same : ι → Store → Store → Prop) (frame : Machine) (way : ι) {α : Type}
    (p q : Machine × α) : Prop :=
  Like same frame way p.1 q.1 ∧ q.2 = p.2

private theorem foldl_deliver_like (apart : Option Pid) (sent : List (Pid × Signal))
    (kept : List Signal) (h : Like same frame way m m') :
    LikeWith same frame way
      (sent.foldl (fun (m, kept) (pid, signal) =>
        if apart = some pid then (m, kept ++ [signal]) else (m.deliver pid signal, kept)) (m, kept))
      (sent.foldl (fun (m, kept) (pid, signal) =>
        if apart = some pid then (m, kept ++ [signal]) else (m.deliver pid signal, kept))
        (m', kept)) := by
  induction sent generalizing kept m m' with
  | nil => exact ⟨h, rfl⟩
  | cons entry rest ih =>
    obtain ⟨pid, signal⟩ := entry
    simp only [List.foldl_cons]
    split
    · exact ih _ h
    · exact ih _ (h.deliver pid signal)

theorem Like.perform (h : Like same frame way m m') (apart : Option Pid) {d e : Deed}
    (deeds : Deed.Like same way d e) :
    LikeWith same frame way (m.perform apart d) (m'.perform apart e) := by
  unfold Machine.perform
  rw [deeds.sent]
  exact foldl_deliver_like apart d.sent [] (h.withStore deeds.store)

theorem Like.act (h : Like same frame way m m') (apart : Option Pid) {child : Child}
    (hm : child ∈ m.children.all) :
    LikeWith same frame way (m.act apart child) (m'.act apart child) := by
  obtain ⟨store, rfl⟩ := h.exists_store
  have overlooks := h.children child hm
  unfold Machine.act
  dsimp only
  cases hs : child.state with
  | running since behaviour =>
    have going : behaviour.Overlooks same := overlooks.running hs
    cases going with
    | ended left => exact ⟨h, rfl⟩
    | later deeds goes onward interrupted left =>
      simp only
      rw [goes way _ _ h.scene]
      refine (h.withChildren (h.children.update _ fun other _ ho => ?_)).perform apart
        (deeds way _ _ h.scene)
      exact ho.goOn (onward way _ _ h.scene) _
  | stopped since behaviour held => exact ⟨h, rfl⟩
  | ended ending | gone ending =>
    have left := overlooks.left
    simp only
    cases hr : child.rest with
    | mk since activity =>
      rw [hr] at left
      cases left with
      | quiet => exact ⟨h, rfl⟩
      | later deeds goes onward =>
        simp only
        rw [goes way _ _ h.scene]
        refine (h.withChildren (h.children.update _ fun other _ ho => ?_)).perform apart
          (deeds way _ _ h.scene)
        exact ⟨ho.state, onward way _ _ h.scene⟩

theorem Like.setClock (h : Like same frame way m m') (time : Nat) :
    Like same frame way { m with children := m.children.setClock time }
      { m' with children := m'.children.setClock time } := by
  obtain ⟨store, rfl⟩ := h.exists_store
  exact h.withChildren h.children

theorem Like.runUntil (h : Like same frame way m m') (fuel limit : Nat) (apart : Option Pid)
    (concerns : Signal → Bool) :
    LikeWith same frame way (m.runUntil fuel limit apart concerns)
      (m'.runUntil fuel limit apart concerns) := by
  induction fuel generalizing m m' with
  | zero => exact ⟨h.setClock limit, rfl⟩
  | succ fuel ih =>
    have hdue : m'.nextDue? apart = m.nextDue? apart := by
      rw [h.rest, nextDue?, nextDue?]
    rw [Machine.runUntil, Machine.runUntil, hdue]
    split
    · exact ⟨h.setClock limit, rfl⟩
    · next child due hd =>
      split
      · exact ⟨h.setClock limit, rfl⟩
      · obtain ⟨acted, signals⟩ := (h.setClock due).act apart (mem_of_nextDue? hd).1
        simp only [signals]
        split
        · exact ⟨acted, rfl⟩
        · exact ih acted

theorem Like.advance (h : Like same frame way m m') (time : Nat) :
    Like same frame way (m.advance time) (m'.advance time) := by
  obtain ⟨store, rfl⟩ := h.exists_store
  exact (h.runUntil _ _ _ _).1

theorem Like.follow (h : Like same frame way m m') (pid : Pid) (since : Nat)
    {behaviour : Behaviour} (going : behaviour.Overlooks same) :
    Like same frame way (follow pid since behaviour m) (follow pid since behaviour m') := by
  induction going generalizing m m' since with
  | ended left =>
    obtain ⟨store, rfl⟩ := h.exists_store
    rw [Machine.follow, Machine.follow]
    exact h.withChildren (h.children.update pid fun _ _ _ => ⟨trivial, left⟩)
  | @later delay deed next reaction caught rest holds deeds goes onward interrupted left ihNext
    ihCaught =>
    have hfuel (limit : Nat) : m'.fuelUntil limit = m.fuelUntil limit := by
      rw [h.rest, fuelUntil, fuelUntil]
    rw [Machine.follow, Machine.follow, hfuel]
    have runs := h.runUntil (m.fuelUntil (since + delay + 1)) (since + delay + 1) (some pid)
      fun signal => signal == .kill || reaction signal == .caught ||
        (reaction signal == .default && signal.action == .terminate)
    generalize m.runUntil _ _ _ _ = ran, m'.runUntil _ _ _ _ = ran' at runs
    obtain ⟨n, stop⟩ := ran
    obtain ⟨n', stop'⟩ := ran'
    obtain ⟨like, hstop⟩ : Like same frame way n n' ∧ stop' = stop := runs
    obtain ⟨store, rfl⟩ := like.exists_store
    subst hstop
    cases stop' with
    | some signal =>
      simp only
      split
      · exact ihCaught signal _ like _
      · exact like.withChildren (like.children.update pid fun _ _ _ => ⟨trivial, left _⟩)
    | none =>
      simp only
      rw [goes way _ _ like.scene]
      exact ihNext way _ _ like.scene (like.perform _ (deeds way _ _ like.scene)).1 _

theorem Like.settle (h : Like same frame way m m') (pid : Pid) :
    Like same frame way (m.settle pid) (m'.settle pid) := by
  obtain ⟨store, rfl⟩ := h.exists_store
  unfold Machine.settle
  dsimp only
  split
  · next since behaviour hs =>
    obtain ⟨child, hm, -, hstate⟩ := Children.exists_of_state?_eq_some hs
    have overlooks := (h.children child hm).state
    rw [hstate] at overlooks
    exact h.follow pid since overlooks
  · exact h

theorem Like.await (h : Like same frame way m m') (pid : Pid) :
    (m'.await pid).1 = (m.await pid).1 ∧ Like same frame way (m.await pid).2 (m'.await pid).2 := by
  have settled := h.settle pid
  unfold Machine.await
  generalize m.settle pid = n, m'.settle pid = n' at settled
  obtain ⟨store, rfl⟩ := settled.exists_store
  exact ⟨rfl, settled.withChildren (settled.children.collect pid)⟩

end Machine

/-- A child depends on no differences between stores if its program does not. -/
theorem Departure.make_indifferent {alike : ι → Scene → Scene → Prop}
    (stores : ∀ way x y, alike way x y → same way x.store y.store) {programs : Programs}
    (indifferent : ∀ launch, (programs launch).Indifferent alike same) (s : Session)
    (command : Command) (background : Bool) :
    (Departure.make programs s command background).behaviour.Indifferent alike same := by
  unfold Departure.make
  dsimp only
  split
  · exact .later (fun way x y like => ⟨stores way x y like, rfl⟩) (fun _ _ _ _ => rfl)
      (fun _ _ _ _ => .ended .quiet) (fun _ _ => .ended .quiet) fun _ => .quiet
  · split
    · exact .ended .quiet
    · split
      · exact .ended .quiet
      · exact indifferent _

theorem Departure.make_overlooks {programs : Programs}
    (overlook : ∀ launch, (programs launch).Overlooks same) (s : Session) (command : Command)
    (background : Bool) :
    (Departure.make programs s command background).behaviour.Overlooks same :=
  make_indifferent (fun _ _ _ like => like.store) overlook s command background

/-! What every deed keeps. -/

section
variable (kept : Store → Store → Prop)

/-- Whatever is done, the store that is left stands in a relation to the one that was found. -/
inductive Activity.Keeps : Activity → Prop
  | quiet : Keeps .quiet
  | later {delay : Nat} {deed : Scene → Deed} {next : Scene → Activity}
      {holds : List Handle}
      (deeds : ∀ scene, kept scene.store (deed scene).store) (onward : ∀ scene, Keeps (next scene)) :
      Keeps (.later delay deed next holds)

/-- The same for a behaviour, whatever signals may come. -/
inductive Behaviour.Keeps : Behaviour → Prop
  | ended {ending : Ending} {rest : Activity} (left : rest.Keeps kept) : Keeps (.ended ending rest)
  | later {delay : Nat} {deed : Scene → Deed} {next : Scene → Behaviour}
      {reaction : Signal → Reaction} {caught : Signal → Nat → Behaviour} {rest : Nat → Activity}
      {holds : List Handle}
      (deeds : ∀ scene, kept scene.store (deed scene).store) (onward : ∀ scene, Keeps (next scene))
      (interrupted : ∀ signal time, Keeps (caught signal time))
      (left : ∀ time, (rest time).Keeps kept) :
      Keeps (.later delay deed next reaction caught rest holds)

def ChildState.Keeps : ChildState → Prop
  | running _ behaviour | stopped _ behaviour _ => behaviour.Keeps kept
  | ended _ | gone _ => True

structure Child.Keeps (child : Child) : Prop where
  state : child.state.Keeps kept
  left : child.rest.2.Keeps kept

/-- The same store twice, which stands in the relation to an earlier one. -/
def Since (before x y : Store) : Prop :=
  y = x ∧ kept before x

end

section
variable {kept : Store → Store → Prop}

private theorem Scene.Like.eq {before : Store} {x y : Scene}
    (h : Scene.Like (Since kept) before x y) : y = x := by
  obtain ⟨store, present⟩ := x
  obtain ⟨store', present'⟩ := y
  obtain ⟨rfl, -⟩ : store' = store ∧ _ := h.store
  obtain rfl : present' = present := h.present
  rfl

private theorem deed_like (trans : ∀ x y z, kept x y → kept y z → kept x z)
    {deed : Scene → Deed} (deeds : ∀ scene, kept scene.store (deed scene).store) (before : Store)
    (x y : Scene) (h : Scene.Like (Since kept) before x y) :
    Deed.Like (Since kept) before (deed x) (deed y) := by
  obtain rfl := h.eq
  exact ⟨⟨rfl, trans _ _ _ h.store.2 (deeds y)⟩, rfl⟩

theorem Activity.Keeps.overlooks (trans : ∀ x y z, kept x y → kept y z → kept x z)
    {activity : Activity} (h : activity.Keeps kept) : activity.Overlooks (Since kept) := by
  induction h with
  | quiet => exact .quiet
  | later deeds onward ih =>
    exact .later (deed_like trans deeds) (fun _ _ _ h => by rw [h.eq]) fun _ x _ _ => ih x

/-- What stands in a relation to what was found before is left alike by what keeps the relation. -/
theorem Behaviour.Keeps.overlooks (trans : ∀ x y z, kept x y → kept y z → kept x z)
    {behaviour : Behaviour} (h : behaviour.Keeps kept) : behaviour.Overlooks (Since kept) := by
  induction h with
  | ended left => exact .ended (left.overlooks trans)
  | later deeds onward interrupted left ihNext ihCaught =>
    exact .later (deed_like trans deeds) (fun _ _ _ h => by rw [h.eq]) (fun _ x _ _ => ihNext x)
      ihCaught fun time => (left time).overlooks trans

theorem Child.Keeps.overlooks (trans : ∀ x y z, kept x y → kept y z → kept x z) {child : Child}
    (h : child.Keeps kept) : child.Overlooks (Since kept) := by
  refine ⟨?_, h.left.overlooks trans⟩
  have state := h.state
  cases hs : child.state with
  | running since behaviour | stopped since behaviour held =>
    rw [hs] at state
    exact Behaviour.Keeps.overlooks trans state
  | ended ending | gone ending => trivial

end

private theorem Activity.keeps_true (activity : Activity) : activity.Keeps fun _ _ => True := by
  induction activity with
  | quiet => exact .quiet
  | later delay deed next holds ih => exact .later (fun _ => trivial) ih

private theorem Behaviour.keeps_true (behaviour : Behaviour) : behaviour.Keeps fun _ _ => True := by
  induction behaviour with
  | ended ending rest => exact .ended rest.keeps_true
  | later delay deed next reaction caught rest holds ihNext ihCaught =>
    exact .later (fun _ => trivial) ihNext ihCaught fun time => (rest time).keeps_true

private theorem Child.keeps_true (child : Child) : child.Keeps fun _ _ => True := by
  refine ⟨?_, child.rest.2.keeps_true⟩
  cases hs : child.state with
  | running since behaviour | stopped since behaviour held => exact behaviour.keeps_true
  | ended ending | gone ending => trivial

namespace Machine

private theorem like_self (m : Machine) : Like (Since fun _ _ => True) m m.store m m :=
  ⟨rfl, ⟨rfl, trivial⟩, fun child _ => child.keeps_true.overlooks fun _ _ _ _ _ => trivial,
    rfl, rfl, rfl⟩

theorem advance_cwd (m : Machine) (time : Nat) : (m.advance time).cwd = m.cwd :=
  (m.like_self.advance time).cwd

theorem await_cwd (m : Machine) (pid : Pid) : (m.await pid).2.cwd = m.cwd :=
  (m.like_self.await pid).2.cwd

theorem advance_pid (m : Machine) (time : Nat) : (m.advance time).pid = m.pid :=
  (m.like_self.advance time).pid

theorem await_pid (m : Machine) (pid : Pid) : (m.await pid).2.pid = m.pid :=
  (m.like_self.await pid).2.pid

theorem advance_streams (m : Machine) (time : Nat) : (m.advance time).streams = m.streams :=
  (m.like_self.advance time).streams

theorem await_streams (m : Machine) (pid : Pid) : (m.await pid).2.streams = m.streams :=
  (m.like_self.await pid).2.streams

end Machine

end JobShell
