import JobShell.Machine
import JobShell.Proofs.Lifetime

/-!
What the time that goes by can change: files, what the shell was sent, and the lives of children.
Nobody is waited for meanwhile. A wait for a running child lets time go by until it has ended, and
then lets go of it.
-/

namespace JobShell.Machine

/-- What time can change, for all children but the one set apart. -/
structure Elapses (apart : Option Pid) (m later : Machine) : Prop where
  pid : later.pid = m.pid
  cwd : later.cwd = m.cwd
  streams : later.streams = m.streams
  children : m.children.Live apart later.children

variable {apart : Option Pid} {m later last : Machine}

theorem Elapses.refl (apart : Option Pid) (m : Machine) : m.Elapses apart m :=
  ⟨rfl, rfl, rfl, .refl _ _⟩

theorem Elapses.trans (first : m.Elapses apart later) (second : later.Elapses apart last) :
    m.Elapses apart last :=
  ⟨second.pid.trans first.pid, second.cwd.trans first.cwd, second.streams.trans first.streams,
    first.children.trans second.children⟩

theorem Elapses.weaken (h : m.Elapses apart later) : m.Elapses none later :=
  ⟨h.pid, h.cwd, h.streams, h.children.weaken⟩

theorem Elapses.numbered (h : m.Elapses apart later) (hn : m.children.Numbered) :
    later.children.Numbered :=
  hn.live h.children

/-- A change of the children only. -/
theorem Elapses.of_children {c : Children} (h : m.children.Live apart c) :
    m.Elapses apart { m with children := c } :=
  ⟨rfl, rfl, rfl, h⟩

private theorem deliver_elapses (m : Machine) {pid : Pid} (ha : apart ≠ some pid)
    (signal : Signal) : m.Elapses apart (m.deliver pid signal) := by
  unfold deliver
  split
  · split
    · exact ⟨rfl, rfl, rfl, .refl _ _⟩
    · exact .refl _ _
  · exact .of_children (Children.signal_live _ ha signal)

private theorem foldl_deliver_elapses (sent : List (Pid × Signal)) (m : Machine)
    (kept : List Signal) :
    m.Elapses apart (sent.foldl (fun (m, kept) (pid, signal) =>
      if apart = some pid then (m, kept ++ [signal]) else (m.deliver pid signal, kept))
      (m, kept)).1 := by
  induction sent generalizing m kept with
  | nil => exact .refl _ _
  | cons entry rest ih =>
    obtain ⟨pid, signal⟩ := entry
    simp only [List.foldl_cons]
    split
    · exact ih m _
    · next ha => exact (deliver_elapses m ha signal).trans (ih _ _)

private theorem perform_elapses (m : Machine) (apart : Option Pid) (deed : Deed) :
    m.Elapses apart (m.perform apart deed).1 := by
  have start : m.Elapses apart { m with store := deed.store } := ⟨rfl, rfl, rfl, .refl _ _⟩
  exact start.trans (foldl_deliver_elapses deed.sent _ [])

/-- Whoever does something next is one of the children and not the one set apart. -/
theorem mem_of_nextDue? {child : Child} {due : Nat} (h : m.nextDue? apart = some (child, due)) :
    child ∈ m.children.all ∧ apart ≠ some child.pid := by
  have folded : ∀ found ∈ m.nextDue? apart,
      found.1 ∈ m.children.all ∧ apart ≠ some found.1.pid := by
    unfold nextDue?
    refine List.foldlRecOn (motive := fun best : Option (Child × Nat) => ∀ found ∈ best,
      found.1 ∈ m.children.all ∧ apart ≠ some found.1.pid) _ _ (by simp) ?_
    intro best hb first hfirst
    split
    · exact hb
    · next ha =>
      split
      · split
        · rintro found ⟨⟩
          exact ⟨hfirst, ha⟩
        · exact hb
      · rintro found ⟨⟩
        exact ⟨hfirst, ha⟩
      · exact hb
  exact folded _ h

private theorem act_elapses (hn : m.children.Numbered) {child : Child} (hm : child ∈ m.children.all)
    (ha : apart ≠ some child.pid) : m.Elapses apart (m.act apart child).1 := by
  have one {f : Child → Child} (hf : child.Lives none (f child)) :
      m.Elapses apart { m with children := m.children.update child.pid f } := by
    refine .of_children (Children.update_live fun other ho hp => ?_)
    obtain rfl := hn.eq_of_pid_eq ho hm hp
    exact hf.of_ne ha
  have rests (rest : Nat × Activity) : child.Lives none { child with rest } :=
    ⟨rfl, rfl, rfl, fun _ _ => rfl, by simp⟩
  unfold act
  split
  · next since delay deed next reaction caught rest hs =>
    exact (one (Child.goOn_lives (by simp [hs, ChildState.ending?]) _ _)).trans
      (perform_elapses _ _ _)
  · exact .refl _ _
  · exact .refl _ _
  · split
    · exact (one (rests _)).trans (perform_elapses _ _ _)
    · exact .refl _ _
  · split
    · exact (one (rests _)).trans (perform_elapses _ _ _)
    · exact .refl _ _

private theorem runUntil_elapses (fuel limit : Nat) (apart : Option Pid) (concerns : Signal → Bool)
    (hn : m.children.Numbered) : m.Elapses apart (m.runUntil fuel limit apart concerns).1 := by
  have clock (m : Machine) (time : Nat) :
      m.Elapses apart { m with children := m.children.setClock time } :=
    .of_children (Children.setClock_live _ _ _)
  induction fuel generalizing m with
  | zero => exact clock m limit
  | succ fuel ih =>
    rw [runUntil]
    split
    · exact clock m limit
    · next child due hd =>
      obtain ⟨hm, ha⟩ := mem_of_nextDue? hd
      split
      · exact clock m limit
      · obtain ⟨m', signals, hact⟩ : ∃ m' signals,
            act { m with children := m.children.setClock due } apart child = (m', signals) :=
          ⟨_, _, rfl⟩
        have acted := (clock m due).trans
          (act_elapses (m := { m with children := m.children.setClock due })
            ((clock m due).numbered hn) hm ha)
        rw [hact] at acted
        simp only [hact]
        split
        · exact acted
        · exact acted.trans (ih (acted.numbered hn))

private theorem advanceTo_elapses (hn : m.children.Numbered) (limit : Nat) :
    m.Elapses none (m.advanceTo limit) :=
  runUntil_elapses _ _ _ _ hn

theorem advance_elapses (hn : m.children.Numbered) (time : Nat) :
    m.Elapses none (m.advance time) :=
  advanceTo_elapses hn _

/-- The child with a number has not ended. -/
def Going (m : Machine) (pid : Pid) : Prop :=
  ∀ child ∈ m.children.all, child.pid = pid → child.state.ending? = none

theorem Elapses.going {pid : Pid} (h : m.Elapses (some pid) later) (hg : m.Going pid) :
    later.Going pid := by
  intro child hm hp
  obtain ⟨before, hb, hlives⟩ := h.children.before hm
  have hbp : before.pid = pid := hlives.pid.symm.trans hp
  rw [hlives.apart (by rw [hbp])]
  exact hg before hb hbp

/-- The child with a number has ended, and nobody has waited for it. -/
def Ended (m : Machine) (pid : Pid) : Prop :=
  ∀ child ∈ m.children.all, child.pid = pid → child.state.isEnded = true

private theorem end_elapses {pid : Pid} (hg : m.Going pid) (f : Child → Child)
    (hf : ∀ child, child.state.ending? = none →
      child.Lives none (f child) ∧ (f child).state.isEnded = true) :
    m.Elapses none { m with children := m.children.update pid f } ∧
      Ended { m with children := m.children.update pid f } pid := by
  constructor
  · exact .of_children (Children.update_live fun child hm hp => (hf child (hg child hm hp)).1)
  · intro child hm hp
    obtain ⟨before, hb, rfl⟩ := List.mem_map.mp hm
    by_cases he : before.pid = pid
    · simp only [he, if_true]
      exact (hf before (hg before hb he)).2
    · simp only [he, if_false] at hp

/-- To follow a child is to let time go by up to its end, which comes. -/
theorem follow_elapses {pid : Pid} (since : Nat) (behaviour : Behaviour)
    (hn : m.children.Numbered) (hg : m.Going pid) :
    m.Elapses none (follow pid since behaviour m) ∧ (follow pid since behaviour m).Ended pid := by
  have ends (ending : Ending) (rest : Nat × Activity) (child : Child)
      (h : child.state.ending? = none) :
      child.Lives none { child with state := .ended ending, rest } :=
    ⟨rfl, rfl, (Child.isHeld_of_ending?_eq_none h).symm, fun e he => by simp [h] at he, by simp⟩
  induction behaviour generalizing m since with
  | ended ending rest =>
    rw [follow]
    exact end_elapses hg _ fun child h => ⟨ends _ _ child h, rfl⟩
  | later delay deed next reaction caught rest holds ihNext ihCaught =>
    rw [follow]
    obtain ⟨m', stop, hrun⟩ : ∃ m' stop, m.runUntil (m.fuelUntil (since + delay + 1))
        (since + delay + 1) (some pid) (fun signal => signal == .kill || reaction signal == .caught ||
          (reaction signal == .default && signal.action == .terminate)) = (m', stop) :=
      ⟨_, _, rfl⟩
    have he : m.Elapses (some pid) (m', stop).1 := by
      rw [← hrun]
      exact runUntil_elapses _ _ _ _ hn
    simp only [hrun]
    cases stop with
    | some signal =>
      simp only
      split
      · obtain ⟨htime, hend⟩ := ihCaught signal _ m'.children.now (he.numbered hn) (he.going hg)
        exact ⟨he.weaken.trans htime, hend⟩
      · obtain ⟨htime, hend⟩ := end_elapses (he.going hg) _ fun child h => ⟨ends _ _ child h, rfl⟩
        exact ⟨he.weaken.trans htime, hend⟩
    | none =>
      have hd := he.trans (perform_elapses m' (some pid) (deed m'.scene))
      obtain ⟨htime, hend⟩ := ihNext m'.scene m'.children.now (hd.numbered hn) (hd.going hg)
      exact ⟨hd.weaken.trans htime, hend⟩

/-- A child that goes by a behaviour, or has ended unseen, has ended when it is settled. -/
theorem settle_elapses (hn : m.children.Numbered) {child : Child} (hm : child ∈ m.children.all)
    (hs : (∃ since behaviour, child.state = .running since behaviour) ∨
      ∃ ending, child.state = .ended ending) :
    m.Elapses none (m.settle child.pid) ∧
      ∃ ending, (m.settle child.pid).children.state? child.pid = some (.ended ending) := by
  have hstate := hn.state?_eq hm
  rcases hs with ⟨since, behaviour, hs⟩ | ⟨ending, hs⟩
  · have hg : m.Going child.pid := by
      intro other ho hp
      obtain rfl := hn.eq_of_pid_eq ho hm hp
      simp [hs, ChildState.ending?]
    obtain ⟨htime, hend⟩ := follow_elapses since behaviour hn hg
    simp only [settle, hstate, hs]
    refine ⟨htime, ?_⟩
    obtain ⟨later, hl, hlives⟩ := htime.children.after hm
    have he := hend later hl hlives.pid
    have hls := (htime.numbered hn).state?_eq hl
    rw [hlives.pid] at hls
    obtain ⟨ending, hending⟩ : ∃ ending, later.state = .ended ending := by
      cases h : later.state <;> simp_all [ChildState.isEnded]
    exact ⟨ending, by rw [hls, hending]⟩
  · simp only [settle, hstate, hs]
    exact ⟨.refl _ _, ending, rfl⟩

/-- The wait for a child that goes by a behaviour, or has ended unseen, lasts to its end. The
answer depends on how it ended, but the child is let go of whatever the answer is. -/
theorem await_eq (hn : m.children.Numbered) {child : Child} (hm : child ∈ m.children.all)
    (hs : (∃ since behaviour, child.state = .running since behaviour) ∨
      ∃ ending, child.state = .ended ending) :
    ∃ ending between, m.Elapses none between ∧
      between.children.state? child.pid = some (.ended ending) ∧
      m.await child.pid = (endAnswer ending,
        { between with children := between.children.release child.pid }) := by
  obtain ⟨htime, ending, hend⟩ := settle_elapses hn hm hs
  exact ⟨ending, _, htime, hend, by simp only [await, Children.collect, hend]⟩

end JobShell.Machine
