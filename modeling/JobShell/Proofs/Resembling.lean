import JobShell.Proofs.Overlooking
import JobShell.Proofs.Polling
import Mathlib.Data.List.Forall2

/-!
Machines that differ in which of the children that have ended were waited for, and in their stores.
Children that notice neither do the same to both stores, so time goes by on both machines alike, and
the wait for a child that is new comes to the same.
-/

namespace JobShell

section
variable {ι : Type} (same : ι → Store → Store → Prop)

def Scene.Beside (way : ι) (x y : Scene) : Prop :=
  same way x.store y.store

/-- What goes on depends neither on the differences between stores nor on which processes there are,
and leaves the differences as they are. -/
abbrev Behaviour.Blind (behaviour : Behaviour) : Prop :=
  behaviour.Indifferent (Scene.Beside same) same

/-- Children that are the same, or that have both ended, and in the same way. They do not notice
such a difference in others. -/
inductive Child.Resembles (child : Child) : Child → Prop
  | equal (blind : child.Indifferent (Scene.Beside same) same) : Resembles child child
  | finished {ending : Ending} {state : ChildState} (ends : child.state.ending? = some ending)
      (ends' : state.ending? = some ending)
      (left : child.rest.2.Indifferent (Scene.Beside same) same) :
      Resembles child { child with state }

inductive Children.Resemble (c : Children) : Children → Prop
  | intro {all : List Child} (each : List.Forall₂ (Child.Resembles same) c.all all) :
      Resemble c { c with all }

/-- Machines that differ in their children, no more than these notice, and in their stores, in one
of the ways. -/
inductive Machine.Resembles (way : ι) (m : Machine) : Machine → Prop
  | intro {children : Children} {store : Store} (each : m.children.Resemble same children)
      (stores : same way m.store store) : Resembles way m { m with children, store }

end

variable {ι : Type} {same : ι → Store → Store → Prop} {way : ι}

namespace Child
variable {child other : Child} {behaviour : Behaviour}

/-! Children side by side. -/

theorem Resembles.pid_eq (h : child.Resembles same other) : other.pid = child.pid := by
  cases h <;> rfl

theorem Resembles.ending?_eq (h : child.Resembles same other) :
    other.state.ending? = child.state.ending? := by
  cases h with
  | equal => rfl
  | finished ends ends' => exact ends'.trans ends.symm

/-- Whatever both were, they go on alike. -/
theorem Resembles.goOn (h : child.Resembles same other) (now : Nat) (blind : behaviour.Blind same) :
    (child.goOn now behaviour).Resembles same (other.goOn now behaviour) := by
  have left : child.rest.2.Indifferent (Scene.Beside same) same := by
    cases h with
    | equal blind => exact blind.left
    | finished ends ends' left => exact left
  have alike : other.goOn now behaviour = child.goOn now behaviour := by
    cases h <;> cases behaviour <;> rfl
  rw [alike]
  refine .equal ?_
  cases blind with
  | ended rest => exact ⟨trivial, rest⟩
  | later deeds goes onward interrupted leaves =>
    exact ⟨.later deeds goes onward interrupted leaves, left⟩

theorem Resembles.ending (h : child.Resembles same other) (ending : Ending) {rest : Nat × Activity}
    (left : rest.2.Indifferent (Scene.Beside same) same) :
    Child.Resembles same { child with state := .ended ending, rest }
      { other with state := .ended ending, rest } := by
  cases h <;> exact .equal ⟨trivial, left⟩

theorem Resembles.leaving (h : child.Resembles same other) {rest : Nat × Activity}
    (left : rest.2.Indifferent (Scene.Beside same) same) :
    Child.Resembles same { child with rest } { other with rest } := by
  cases h with
  | equal blind => exact .equal ⟨blind.state, left⟩
  | finished ends ends' => exact .finished ends ends' left

private theorem receive_of_ended {ending : Ending} (ends : child.state.ending? = some ending)
    (now : Nat) (signal : Signal) : child.receive now signal = child := by
  unfold receive take
  cases hs : child.state <;> simp_all [ChildState.ending?]

theorem Resembles.receive (h : child.Resembles same other) (now : Nat) (signal : Signal) :
    (child.receive now signal).Resembles same (other.receive now signal) := by
  cases h with
  | equal blind => exact .equal (blind.receive now signal)
  | finished ends ends' left =>
    rw [receive_of_ended ends, receive_of_ended ends']
    exact .finished ends ends' left

private theorem released_eq (child : Child) :
    child.released = { child with state := child.state.released } := by
  obtain ⟨pid, policy, group, state, rest⟩ := child
  cases state <;> rfl

private theorem ending?_state_released {state : ChildState} {ending : Ending}
    (ends : state.ending? = some ending) : state.released.ending? = some ending := by
  cases state <;> exact ends

theorem Resembles.released (h : child.Resembles same other) :
    child.released.Resembles same other.released := by
  cases h with
  | equal blind => exact .equal blind.released
  | finished ends ends' left =>
    rw [released_eq, released_eq]
    exact .finished (ending?_state_released ends) (ending?_state_released ends') left

private theorem Resembles.released_left (h : child.Resembles same other) :
    child.released.Resembles same other := by
  cases h with
  | equal blind =>
    cases ends : child.state.ending? with
    | none =>
      have kept : child.state.released = child.state := by
        cases hs : child.state <;> simp_all [ChildState.ending?, ChildState.released]
      rw [released_eq, kept]
      exact .equal blind
    | some ending =>
      rw [released_eq]
      exact .finished (ending?_state_released ends) ends blind.left
  | finished ends ends' left =>
    rw [released_eq]
    exact .finished (ending?_state_released ends) ends' left

private theorem Resembles.due?_eq (h : child.Resembles same other) : other.due? = child.due? := by
  cases h with
  | equal => rfl
  | @finished ending state ends ends' =>
    unfold due?
    cases hs : child.state <;> cases state <;> simp_all [ChildState.ending?]

end Child

/-! All children side by side. -/

namespace Children
variable {c c' : Children}

theorem Resemble.numbered (h : c.Resemble same c') (hn : c.Numbered) : c'.Numbered := by
  obtain ⟨each⟩ := h
  refine hn.of_pids_eq ?_ rfl
  rw [← List.forall₂_eq_eq_eq, pids, pids, List.forall₂_map_left_iff, List.forall₂_map_right_iff]
  exact each.flip.imp fun _ _ h => h.pid_eq

theorem Resemble.update (h : c.Resemble same c') {f g : Child → Child} (pid : Pid)
    (keeps : ∀ child other : Child, child.Resembles same other → (f child).Resembles same (g other)) :
    (c.update pid f).Resemble same (c'.update pid g) := by
  obtain ⟨each⟩ := h
  refine .intro (c := c.update pid f) ?_
  refine List.forall₂_map_left_iff.mpr (List.forall₂_map_right_iff.mpr (each.imp ?_))
  intro child other h
  rw [h.pid_eq]
  split
  · exact keeps child other h
  · exact h

theorem Resemble.signal (h : c.Resemble same c') (pid : Pid) (signal : Signal) :
    (c.signal pid signal).Resemble same (c'.signal pid signal) := by
  have now : c'.now = c.now := by
    cases h
    rfl
  rw [Children.signal, Children.signal, now]
  exact h.update pid fun _ _ h => h.receive c.now signal

theorem Resemble.setClock (h : c.Resemble same c') (now : Nat) :
    (c.setClock now).Resemble same (c'.setClock now) := by
  obtain ⟨each⟩ := h
  exact .intro (c := c.setClock now) each

theorem Resemble.release (h : c.Resemble same c') (pid : Pid) :
    (c.release pid).Resemble same (c'.release pid) := by
  rw [release_eq_update, release_eq_update]
  exact h.update pid fun _ _ h => h.released

private theorem Resemble.release_left (h : c.Resemble same c') (pid : Pid) :
    (c.release pid).Resemble same c' := by
  have still : c'.update pid id = c' := by simp [Children.update]
  rw [release_eq_update, ← still]
  exact h.update pid fun _ _ h => h.released_left

/-- A report makes no difference. -/
theorem Resemble.reap_left (h : c.Resemble same c') (jobs : Registry) :
    (jobs.reap c).state.Resemble same c' :=
  @Registry.reap_keeps (Resemble same · c') (fun _ pid h => h.release_left pid) jobs c h

theorem Resemble.start (h : c.Resemble same c') (policy : SignalPolicy) {behaviour : Behaviour}
    (blind : behaviour.Blind same) :
    (c.start policy behaviour).2.Resemble same (c'.start policy behaviour).2 := by
  obtain ⟨each⟩ := h
  have child : Child.Indifferent (Scene.Beside same) same
      { pid := c.next, policy, group := c.group, state := .running c.now behaviour } :=
    ⟨blind, .quiet⟩
  exact .intro (c := (c.start policy behaviour).2)
    (List.rel_append each (.cons (.equal (child.goOn blind c.now)) .nil))

private theorem Resemble.find?_rel (h : c.Resemble same c') (pid : Pid) :
    Option.Rel (Child.Resembles same) (c.find? pid) (c'.find? pid) := by
  obtain ⟨each⟩ := h
  simp only [find?]
  generalize c.all = children at each
  induction each with
  | nil => exact .none
  | cons first rest ih =>
    rw [List.find?_cons, List.find?_cons, first.pid_eq]
    split
    · exact .some first
    · exact ih

/-- Both have seen a child end, or neither has, and in the same way. -/
theorem Resemble.ending?_eq (h : c.Resemble same c') (pid : Pid) :
    (c'.state? pid).bind ChildState.ending? = (c.state? pid).bind ChildState.ending? := by
  have found := h.find?_rel pid
  unfold state?
  generalize c.find? pid = child, c'.find? pid = other at found
  cases found with
  | none => rfl
  | some children => exact children.ending?_eq

end Children

/-! Machines side by side. -/

namespace Machine
variable {m m' : Machine}

/-- What is done to the children of both. -/
theorem Resembles.with_children (h : m.Resembles same way m') {c c' : Children}
    (each : c.Resemble same c') :
    Resembles same way { m with children := c } { m' with children := c' } := by
  obtain ⟨-, stores⟩ := h
  exact .intro (m := { m with children := c }) each stores

theorem Resembles.with_store (h : m.Resembles same way m') {way' : ι} {x y : Store}
    (stores : same way' x y) :
    Resembles same way' { m with store := x } { m' with store := y } := by
  obtain ⟨each, -⟩ := h
  exact .intro (m := { m with store := x }) each stores

theorem Resembles.with_signals (h : m.Resembles same way m') (f : SignalState → SignalState) :
    Resembles same way { m with signals := f m.signals } { m' with signals := f m'.signals } := by
  obtain ⟨each, stores⟩ := h
  exact .intro (m := { m with signals := f m.signals }) each stores

theorem Resembles.with_cwd (h : m.Resembles same way m') (cwd : NodeId) :
    Resembles same way { m with cwd } { m' with cwd } := by
  obtain ⟨each, stores⟩ := h
  exact .intro (m := { m with cwd }) each stores

theorem Resembles.children (h : m.Resembles same way m') :
    m.children.Resemble same m'.children := by
  obtain ⟨each, -⟩ := h
  exact each

theorem Resembles.store (h : m.Resembles same way m') : same way m.store m'.store := by
  obtain ⟨-, stores⟩ := h
  exact stores

private theorem Resembles.now_eq (h : m.Resembles same way m') :
    m'.children.now = m.children.now := by
  obtain ⟨⟨_⟩, _⟩ := h
  rfl

theorem Resembles.scene (h : m.Resembles same way m') : Scene.Beside same way m.scene m'.scene :=
  h.store

theorem Resembles.deliver (h : m.Resembles same way m') (pid : Pid) (signal : Signal) :
    (m.deliver pid signal).Resembles same way (m'.deliver pid signal) := by
  obtain ⟨each, stores⟩ := h
  simp only [Machine.deliver]
  split
  · split
    · next signal _ => exact (Resembles.intro each stores).with_signals (·.raise signal)
    · exact .intro each stores
  · exact .intro (m := { m with children := m.children.signal pid signal }) (each.signal pid signal)
      stores

private theorem foldl_deliver_resembles (apart : Option Pid) (sent : List (Pid × Signal))
    (kept : List Signal) (h : m.Resembles same way m') :
    let send := fun (was : Machine × List Signal) (entry : Pid × Signal) =>
      if apart = some entry.1 then (was.1, was.2 ++ [entry.2])
      else (was.1.deliver entry.1 entry.2, was.2)
    (sent.foldl send (m, kept)).1.Resembles same way (sent.foldl send (m', kept)).1 ∧
      (sent.foldl send (m', kept)).2 = (sent.foldl send (m, kept)).2 := by
  induction sent generalizing m m' kept with
  | nil => exact ⟨h, rfl⟩
  | cons entry rest ih =>
    simp only [List.foldl_cons]
    split
    · exact ih _ h
    · exact ih _ (h.deliver entry.1 entry.2)

/-- Deeds that are alike do the same to both, and hand back the same signals. -/
theorem Resembles.perform (h : m.Resembles same way m') (apart : Option Pid) {deed deed' : Deed}
    (deeds : Deed.Like same way deed deed') :
    (m.perform apart deed).1.Resembles same way (m'.perform apart deed').1 ∧
      (m'.perform apart deed').2 = (m.perform apart deed).2 := by
  unfold Machine.perform
  rw [deeds.sent]
  exact foldl_deliver_resembles apart deed.sent [] (h.with_store deeds.store)

private theorem Resembles.nextDue?_rel (h : m.Resembles same way m') (apart : Option Pid) :
    Option.Rel (fun first second : Child × Nat => first.1.Resembles same second.1 ∧ second.2 = first.2)
      (m.nextDue? apart) (m'.nextDue? apart) := by
  obtain ⟨⟨each⟩, -⟩ := h
  refine List.rel_foldl ?_ .none each
  intro best best' bests child other h
  dsimp only
  rw [h.pid_eq, h.due?_eq]
  split
  · exact bests
  · cases child.due? with
    | none => exact bests
    | some due =>
      cases bests with
      | none => exact .some ⟨h, rfl⟩
      | @some first second firsts =>
        obtain ⟨earliest, time⟩ := first
        obtain ⟨earliest', time'⟩ := second
        obtain ⟨children, rfl⟩ := firsts
        dsimp only
        split
        · exact .some ⟨h, rfl⟩
        · exact .some ⟨children, rfl⟩

private theorem act_of_ended (m : Machine) (apart : Option Pid) {child : Child} {ending : Ending}
    (ends : child.state.ending? = some ending) :
    m.act apart child =
      match child.rest with
      | (_, .later _ deed next _) =>
        ({ m with
          children := m.children.update child.pid fun child =>
            { child with rest := (m.children.now, next m.scene) } }).perform apart (deed m.scene)
      | (_, .quiet) => (m, []) := by
  unfold Machine.act
  cases hs : child.state with
  | running | stopped => simp [hs, ChildState.ending?] at ends
  | ended | gone => rfl

private theorem Resembles.act_of_ended (h : m.Resembles same way m') (apart : Option Pid)
    {child : Child}
    {state : ChildState} {ending : Ending} (ends : child.state.ending? = some ending)
    (ends' : state.ending? = some ending)
    (left : child.rest.2.Indifferent (Scene.Beside same) same) :
    (m.act apart child).1.Resembles same way (m'.act apart { child with state }).1 ∧
      (m'.act apart { child with state }).2 = (m.act apart child).2 := by
  rw [Machine.act_of_ended m apart ends,
    Machine.act_of_ended m' apart ends']
  obtain ⟨pid, policy, group, _, since, activity⟩ := child
  cases left with
  | quiet => exact ⟨h, rfl⟩
  | later deeds goes onward =>
    dsimp only
    rw [h.now_eq, goes way _ _ h.scene]
    exact (h.with_children (h.children.update pid fun _ _ other =>
      other.leaving (onward way _ _ h.scene))).perform _ (deeds way _ _ h.scene)

/-- What one child does is the same on both. -/
theorem Resembles.act (h : m.Resembles same way m') (apart : Option Pid) {child other : Child}
    (children : child.Resembles same other) :
    (m.act apart child).1.Resembles same way (m'.act apart other).1 ∧
      (m'.act apart other).2 = (m.act apart child).2 := by
  cases children with
  | finished ends ends' left => exact h.act_of_ended apart ends ends' left
  | equal blind =>
    obtain ⟨pid, policy, group, state, rest⟩ := child
    obtain ⟨going, left⟩ := blind
    cases state with
    | running since behaviour =>
      cases going with
      | ended => exact ⟨h, rfl⟩
      | later deeds goes onward =>
        simp only [Machine.act]
        rw [h.now_eq, goes way _ _ h.scene]
        exact (h.with_children (h.children.update pid fun _ _ other =>
          other.goOn _ (onward way _ _ h.scene))).perform _ (deeds way _ _ h.scene)
    | stopped => exact ⟨h, rfl⟩
    | ended => exact h.act_of_ended apart rfl rfl left
    | gone => exact h.act_of_ended apart rfl rfl left

/-- Time goes by on both alike. -/
theorem Resembles.runUntil (h : m.Resembles same way m') (fuel limit : Nat) (apart : Option Pid)
    (concerns : Signal → Bool) :
    (m.runUntil fuel limit apart concerns).1.Resembles same way
        (m'.runUntil fuel limit apart concerns).1 ∧
      (m'.runUntil fuel limit apart concerns).2 = (m.runUntil fuel limit apart concerns).2 := by
  have clock {m m' : Machine} (h : m.Resembles same way m') (time : Nat) :
      Resembles same way { m with children := m.children.setClock time }
        { m' with children := m'.children.setClock time } :=
    h.with_children (h.children.setClock time)
  induction fuel generalizing m m' with
  | zero => exact ⟨clock h limit, rfl⟩
  | succ fuel ih =>
    rw [Machine.runUntil, Machine.runUntil]
    have next := h.nextDue?_rel apart
    generalize m.nextDue? apart = due, m'.nextDue? apart = due' at next
    cases next with
    | none => exact ⟨clock h limit, rfl⟩
    | @some first second same =>
      obtain ⟨child, due⟩ := first
      obtain ⟨other, due'⟩ := second
      obtain ⟨children, times⟩ := same
      dsimp only at children times ⊢
      subst times
      split
      · exact ⟨clock h limit, rfl⟩
      · obtain ⟨machines, signals⟩ := (clock h due').act apart children
        rw [signals]
        cases (Machine.act _ apart child).2.find? concerns with
        | some signal => exact ⟨machines, rfl⟩
        | none => exact ih machines

private theorem Resembles.fuelUntil_eq (h : m.Resembles same way m') (limit : Nat) :
    m'.fuelUntil limit = m.fuelUntil limit := by
  obtain ⟨⟨each⟩, -⟩ := h
  rw [fuelUntil, fuelUntil, each.length_eq]

theorem Resembles.advance (h : m.Resembles same way m') (time : Nat) :
    (m.advance time).Resembles same way (m'.advance time) := by
  rw [Machine.advance, Machine.advance, advanceTo, advanceTo, h.now_eq, h.fuelUntil_eq]
  exact (h.runUntil _ _ _ _).1

/-- A child is followed to the same end on both. -/
theorem Resembles.follow (pid : Pid) (since : Nat) {behaviour : Behaviour}
    (blind : behaviour.Blind same) (h : m.Resembles same way m') :
    (Machine.follow pid since behaviour m).Resembles same way
      (Machine.follow pid since behaviour m') := by
  have ends {m m' : Machine} (h : m.Resembles same way m') (ending : Ending) {rest : Nat × Activity}
      (left : rest.2.Indifferent (Scene.Beside same) same) :
      Resembles same way
        { m with
          children := m.children.update pid fun child =>
            { child with state := .ended ending, rest } }
        { m' with
          children := m'.children.update pid fun child =>
            { child with state := .ended ending, rest } } :=
    h.with_children (h.children.update pid fun _ _ h => h.ending ending left)
  induction blind generalizing m m' since with
  | @ended ending rest left =>
    rw [Machine.follow, Machine.follow, h.now_eq]
    exact ends h ending left
  | @later delay deed next reaction caught rest holds deeds goes onward interrupted left ihNext
    ihCaught =>
    rw [Machine.follow, Machine.follow, h.fuelUntil_eq]
    obtain ⟨machines, stops⟩ := h.runUntil (m.fuelUntil (since + delay + 1)) (since + delay + 1)
      (some pid) (fun signal => signal == .kill || reaction signal == .caught ||
        (reaction signal == .default && signal.action == .terminate))
    dsimp only
    generalize Machine.runUntil _ _ _ _ m = ran, Machine.runUntil _ _ _ _ m' = ran' at machines stops
    obtain ⟨m, stop⟩ := ran
    obtain ⟨m', stop'⟩ := ran'
    obtain rfl : stop' = stop := stops
    cases stop' with
    | some signal =>
      dsimp only at machines ⊢
      rw [machines.now_eq]
      split
      · exact ihCaught signal _ _ machines
      · exact ends machines (.killed signal) (left _)
    | none =>
      dsimp only at machines ⊢
      rw [machines.now_eq, goes way _ _ machines.scene]
      exact ihNext way _ _ machines.scene _
        (machines.perform (some pid) (deeds way _ _ machines.scene)).1

theorem Resembles.settle (h : m.Resembles same way m') (pid : Pid) :
    (m.settle pid).Resembles same way (m'.settle pid) := by
  have found := h.children.find?_rel pid
  unfold Machine.settle Children.state?
  generalize m.children.find? pid = child, m'.children.find? pid = other at found
  cases found with
  | none => exact h
  | @some child other children =>
    cases children with
    | equal blind =>
      obtain ⟨pid, policy, group, state, rest⟩ := child
      cases state with
      | running since behaviour => exact h.follow _ _ blind.state
      | stopped | ended | gone => exact h
    | @finished ending state ends ends' =>
      obtain ⟨pid, policy, group, was, rest⟩ := child
      cases was with
      | running | stopped => cases ends
      | ended | gone =>
        cases state with
        | running | stopped => cases ends'
        | ended | gone => exact h

/-- The wait for a child that goes by a behaviour on both machines, or has ended unseen, brings the
same answer. -/
theorem Resembles.await (h : m.Resembles same way m') (hn : m.children.Numbered)
    {child other : Child}
    (hm : child ∈ m.children.all) (hm' : other ∈ m'.children.all) (numbers : other.pid = child.pid)
    (hs : (∃ since behaviour, child.state = .running since behaviour) ∨
      ∃ ending, child.state = .ended ending)
    (hs' : (∃ since behaviour, other.state = .running since behaviour) ∨
      ∃ ending, other.state = .ended ending) :
    (m'.await child.pid).1 = (m.await child.pid).1 ∧
      (m.await child.pid).2.Resembles same way (m'.await child.pid).2 ∧
      (m.await child.pid).2.children.Numbered := by
  have settled := h.settle child.pid
  obtain ⟨elapses, ending, hend⟩ := settle_elapses hn hm hs
  obtain ⟨-, ending', hend'⟩ := settle_elapses (h.children.numbered hn) hm' hs'
  rw [numbers] at hend'
  have same : ending' = ending := by
    have endings := settled.children.ending?_eq child.pid
    rw [hend, hend'] at endings
    exact Option.some.inj endings
  subst same
  simp only [Machine.await, Children.collect, hend, hend']
  exact ⟨trivial, settled.with_children (settled.children.release _),
    (elapses.numbered hn).release _⟩

end Machine

end JobShell
