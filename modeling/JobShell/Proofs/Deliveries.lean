import JobShell.Signal.State
import Mathlib.Logic.Function.Iterate

/-!
When a SIGTSTP reaches its handler. The past alone decides it: one that is let through reaches the
handler at once, and one that is held back waits for the next drop of a guard, unless the dispositions
of a child are installed or it is taken back before. The mode that is asked for is the one that was
last set, exchanged once for each request and each delivery since.
-/

namespace JobShell

/-- One thing that is done about the signals of a process, or that happens to it. -/
inductive SignalStep where
  | set (mode : Mode)
  | toggle
  | raise (signal : TerminalSignal)
  /-- The handlers of the shell are installed. -/
  | install
  | block
  | unblock
  /-- The dispositions of a child are installed. -/
  | adopt (background : Bool)
  deriving DecidableEq, Repr

namespace SignalStep

def isGuard : SignalStep → Bool
  | block | unblock => true
  | _ => false

def isInstalling : SignalStep → Bool
  | install | adopt _ => true
  | _ => false

/-! What the steps of the past, in order, say about a signal that comes now. -/

/-- SIGTSTP is held back: of all creations and drops of guards the last was a creation. -/
def Blocked (past : List SignalStep) : Prop :=
  (past.filter isGuard).getLast? = some block

instance : DecidablePred Blocked :=
  fun _ => inferInstanceAs (Decidable (_ = _))

def lastInstalled (past : List SignalStep) : Option SignalStep :=
  (past.filter isInstalling).getLast?

/-- The handlers of the shell are in place, not the dispositions of a child. -/
def Handled (past : List SignalStep) : Prop :=
  ∀ background, lastInstalled past ≠ some (adopt background)

instance : DecidablePred Handled :=
  fun past => inferInstanceAs (Decidable (∀ b, lastInstalled past ≠ some (adopt b)))

/-- A SIGTSTP is held back: it was raised while SIGTSTP was blocked, however often and whatever the
dispositions, and since then no guard was dropped, no dispositions of a child were installed and it
was not taken back. -/
def Waiting (past : List SignalStep) : Prop :=
  ∃ earlier later, past = earlier ++ raise .stop :: later ∧ Blocked earlier ∧ unblock ∉ later ∧
    raise .resume ∉ later ∧ ∀ background, adopt background ∉ later

/-- A step that delivers a SIGTSTP to the handler. -/
def Delivers (past : List SignalStep) (step : SignalStep) : Prop :=
  Handled past ∧ (step = raise .stop ∧ ¬ Blocked past ∨ step = unblock ∧ Waiting past)

variable {past : List SignalStep} {step : SignalStep}

private theorem blocked_concat :
    Blocked (past ++ [step]) ↔ step = block ∨ step ≠ unblock ∧ Blocked past := by
  cases step <;> simp [Blocked, isGuard, List.filter_append]

private theorem lastInstalled_concat : lastInstalled (past ++ [step]) =
    if step.isInstalling then some step else lastInstalled past := by
  cases step <;> simp [lastInstalled, isInstalling, List.filter_append]

private theorem handled_concat : Handled (past ++ [step]) ↔
    step = install ∨ (∀ background, step ≠ adopt background) ∧ Handled past := by
  cases step <;> simp [Handled, lastInstalled_concat, isInstalling]

private theorem waiting_concat : Waiting (past ++ [step]) ↔ step = raise .stop ∧ Blocked past ∨
    step ≠ unblock ∧ step ≠ raise .resume ∧ (∀ background, step ≠ adopt background) ∧
      Waiting past := by
  constructor
  · rintro ⟨earlier, later, split, blocked, noDrop, noResume, noChild⟩
    rcases List.eq_nil_or_concat later with rfl | ⟨more, last, rfl⟩
    · obtain ⟨rfl, rfl⟩ := List.append_inj' split rfl |>.imp id List.singleton_inj.mp
      exact .inl ⟨rfl, blocked⟩
    · rw [List.concat_eq_append] at split noDrop noResume noChild
      rw [← List.cons_append, ← List.append_assoc] at split
      obtain ⟨rfl, rfl⟩ := List.append_inj' split rfl |>.imp id List.singleton_inj.mp
      simp only [List.mem_append, List.mem_singleton, not_or] at noDrop noResume noChild
      exact .inr ⟨Ne.symm noDrop.2, Ne.symm noResume.2, fun b => Ne.symm (noChild b).2, earlier,
        more, rfl, blocked, noDrop.1, noResume.1, fun b => (noChild b).1⟩
  · rintro (⟨rfl, blocked⟩ |
      ⟨notDrop, notResume, notChild, earlier, later, rfl, blocked, noDrop, noResume, noChild⟩)
    · exact ⟨past, [], rfl, blocked, by simp, by simp, by simp⟩
    · refine ⟨earlier, later ++ [step], by simp, blocked, ?_, ?_, fun b => ?_⟩
      · simpa [noDrop] using Ne.symm notDrop
      · simpa [noResume] using Ne.symm notResume
      · simpa [noChild] using Ne.symm (notChild b)

end SignalStep

namespace SignalState
open SignalStep

/-- The state after a step. A signal that would end the process is refused. -/
def after (s : SignalState) : SignalStep → SignalState
  | .set mode => s.setRequested mode
  | .toggle => s.toggleRequested
  | .raise signal => s.raise signal
  | .install => s.installHandlers
  | .block => s.block
  | .unblock => s.unblock
  | .adopt background => s.adopt (.forChild background)

def afterAll (s : SignalState) (steps : List SignalStep) : SignalState :=
  steps.foldl after s

def flipsAt (s : SignalState) : SignalStep → Bool
  | .toggle => true
  | .raise .stop => decide (s.blocked = false ∧ s.stop = .handler)
  | .unblock => decide (s.guards ≠ 0 ∧ s.pending = true ∧ s.stop = .handler)
  | _ => false

def flips (s : SignalState) : List SignalStep → Nat
  | [] => 0
  | step :: rest => (s.flipsAt step).toNat + (s.after step).flips rest

variable {s : SignalState} {past steps : List SignalStep} {step : SignalStep}

theorem afterAll_append (s : SignalState) (first second : List SignalStep) :
    s.afterAll (first ++ second) = (s.afterAll first).afterAll second :=
  List.foldl_append

/-- A step that does not set the mode exchanges it or leaves it. -/
theorem requested_after (s : SignalState) (notSet : ∀ mode, step ≠ .set mode) :
    (s.after step).requested = Mode.toggled^[(s.flipsAt step).toNat] s.requested := by
  cases step with
  | set mode => exact absurd rfl (notSet mode)
  | raise signal =>
    cases signal with
    | interrupt => rfl
    | resume => rfl
    | stop =>
      by_cases blocked : s.blocked = true
      · simp [after, raise, flipsAt, blocked]
      · by_cases handled : s.stop = .handler <;>
          simp [after, raise, flipsAt, deliverStop, blocked, handled]
  | unblock =>
    by_cases none : s.guards = 0
    · simp [after, unblock, flipsAt, none]
    · by_cases pending : s.pending = true
      · by_cases handled : s.stop = .handler <;>
          simp [after, unblock, flipsAt, deliverStop, toggleRequested, none, pending, handled]
      · simp [after, unblock, flipsAt, none, pending]
  | _ => rfl

/-- The mode that is asked for is exchanged once for each flip. -/
theorem requested_afterAll (s : SignalState) (noSet : ∀ mode, .set mode ∉ steps) :
    (s.afterAll steps).requested = Mode.toggled^[s.flips steps] s.requested := by
  induction steps generalizing s with
  | nil => rfl
  | cons step rest ih =>
    have notSet (mode : Mode) : step ≠ .set mode := fun h => noSet mode (h ▸ List.mem_cons_self)
    have later := ih (s.after step) fun mode hm => noSet mode (List.mem_cons_of_mem _ hm)
    rw [flips, Nat.add_comm, Function.iterate_add_apply, ← requested_after s notSet, ← later]
    rfl

/-- The handlers of the shell are installed and SIGTSTP is not blocked. -/
structure Ready (s : SignalState) : Prop where
  interrupt : s.interrupt = .ignore
  stop : s.stop = .handler
  unblocked : s.blocked = false
  nothingHeld : s.pending = false

private theorem ready_ofMode (mode : Mode) : (ofMode mode).Ready :=
  ⟨rfl, rfl, rfl, rfl⟩

/-- The state says the same as the past. -/
structure Reflects (s : SignalState) (past : List SignalStep) : Prop where
  blocked : s.blocked = true ↔ Blocked past
  pending : s.pending = true ↔ Waiting past
  stop : s.stop = if Handled past then .handler else .ignore
  interrupt : s.interrupt = if lastInstalled past = some (.adopt false) then .default else .ignore
  held : s.pending = true → s.blocked = true
  guarded : s.blocked = true → s.guards ≠ 0

private theorem Ready.reflects (ready : s.Ready) : s.Reflects [] where
  blocked := by simp [ready.unblocked, Blocked]
  pending := by simp [ready.nothingHeld, Waiting]
  stop := by simp [ready.stop, Handled, lastInstalled]
  interrupt := by simp [ready.interrupt, lastInstalled]
  held := by simp [ready.nothingHeld]
  guarded := by simp [ready.unblocked]

/-- What is delivered changes nothing but the mode that is asked for. -/
theorem deliverStop_eq (s : SignalState) :
    s.deliverStop = { s with requested := s.deliverStop.requested } := by
  unfold deliverStop
  split <;> rfl

theorem Reflects.requested (h : s.Reflects past) (requested : Mode) :
    Reflects { s with requested } past :=
  ⟨h.blocked, h.pending, h.stop, h.interrupt, h.held, h.guarded⟩

/-- A step about neither guards nor dispositions, by which no SIGTSTP comes to be held back or is
taken back. -/
private theorem Reflects.idle (h : s.Reflects past) (noGuard : step.isGuard = false)
    (noInstalling : step.isInstalling = false) (notHeld : step = .raise .stop → ¬ Blocked past)
    (notResume : step ≠ .raise .resume) :
    s.Reflects (past ++ [step]) := by
  have notBlock : step ≠ .block := by rintro rfl; cases noGuard
  have notDrop : step ≠ .unblock := by rintro rfl; cases noGuard
  have notInstall : step ≠ .install := by rintro rfl; cases noInstalling
  have notChild (background : Bool) : step ≠ .adopt background := by rintro rfl; cases noInstalling
  have sameHandlers : Handled (past ++ [step]) ↔ Handled past := by
    simp [handled_concat, notInstall, notChild]
  refine ⟨?_, ?_, ?_, ?_, h.held, h.guarded⟩
  · simpa [blocked_concat, notBlock, notDrop] using h.blocked
  · have fresh : ¬ (step = .raise .stop ∧ Blocked past) := fun raised => notHeld raised.1 raised.2
    simpa [waiting_concat, notDrop, notResume, notChild, fresh] using h.pending
  · simpa only [sameHandlers] using h.stop
  · simpa [lastInstalled_concat, noInstalling] using h.interrupt

private theorem Reflects.raise (h : s.Reflects past) (signal : TerminalSignal) :
    (s.raise signal).Reflects (past ++ [.raise signal]) := by
  cases signal with
  | interrupt => exact h.idle rfl rfl nofun (by simp)
  | resume =>
    refine ⟨?_, ?_, ?_, ?_, nofun, h.guarded⟩
    · simpa [SignalState.raise, blocked_concat] using h.blocked
    · simp [SignalState.raise, waiting_concat]
    · simpa [SignalState.raise, handled_concat] using h.stop
    · simpa [SignalState.raise, lastInstalled_concat, isInstalling] using h.interrupt
  | stop =>
    by_cases blocked : s.blocked = true
    · have past_blocked := h.blocked.mp blocked
      rw [raise_stop_of_blocked blocked]
      refine ⟨?_, ?_, ?_, ?_, fun _ => blocked, h.guarded⟩
      · simpa [blocked_concat] using h.blocked
      · simpa [waiting_concat] using .inl past_blocked
      · simpa [handled_concat] using h.stop
      · simpa [lastInstalled_concat, isInstalling] using h.interrupt
    · rw [raise_stop_of_not_blocked (eq_false_of_ne_true blocked), deliverStop_eq]
      exact (h.requested _).idle rfl rfl (fun _ => mt h.blocked.mpr blocked) (by simp)

private theorem Reflects.unblock (h : s.Reflects past) :
    s.unblock.Reflects (past ++ [.unblock]) := by
  have freed : Reflects { s with blocked := false, pending := false, guards := s.guards - 1 }
      (past ++ [.unblock]) := by
    refine ⟨?_, ?_, ?_, ?_, nofun, nofun⟩
    · simp [blocked_concat]
    · simp [waiting_concat]
    · simpa [handled_concat] using h.stop
    · simpa [lastInstalled_concat, isInstalling] using h.interrupt
  by_cases none : s.guards = 0
  · -- Without a guard nothing is blocked or held back, so there is nothing to let through.
    have unblocked : s.blocked = false := by
      simpa using mt h.guarded (not_not_intro none)
    have nothingHeld : s.pending = false := by
      simpa [unblocked] using h.held
    have same : { s with blocked := false, pending := false, guards := s.guards - 1 } = s := by
      cases s
      simp_all only [Nat.zero_sub]
    rw [SignalState.unblock, if_pos none]
    exact same ▸ freed
  · rw [SignalState.unblock, if_neg none]
    by_cases pending : s.pending = true
    · rw [if_pos pending, deliverStop_eq]
      exact freed.requested _
    · rw [if_neg pending]
      exact freed

theorem Reflects.after (h : s.Reflects past) (step : SignalStep) :
    (s.after step).Reflects (past ++ [step]) := by
  cases step with
  | set mode => exact (h.requested mode).idle rfl rfl nofun nofun
  | toggle => exact (h.requested _).idle rfl rfl nofun nofun
  | raise signal => exact h.raise signal
  | install =>
    rw [SignalState.after, installHandlers]
    refine ⟨?_, ?_, ?_, ?_, h.held, h.guarded⟩
    · simpa [blocked_concat] using h.blocked
    · simpa [waiting_concat] using h.pending
    · simp [handled_concat]
    · simp [lastInstalled_concat, isInstalling]
  | block =>
    rw [SignalState.after, block]
    refine ⟨?_, ?_, ?_, ?_, fun _ => rfl, fun _ => Nat.succ_ne_zero _⟩
    · simp [blocked_concat]
    · simpa [waiting_concat] using h.pending
    · simpa [handled_concat] using h.stop
    · simpa [lastInstalled_concat, isInstalling] using h.interrupt
  | unblock => exact h.unblock
  | adopt background =>
    rw [SignalState.after, adopt, SignalPolicy.forChild]
    refine ⟨?_, ?_, ?_, ?_, by simp, h.guarded⟩
    · simpa [blocked_concat] using h.blocked
    · simp [waiting_concat]
    · simp [handled_concat]
    · cases background <;> simp [lastInstalled_concat, isInstalling]

/-- What was done is all that the state depends on, but for the mode that is asked for. -/
theorem Reflects.afterAll (h : s.Reflects past) (steps : List SignalStep) :
    (s.afterAll steps).Reflects (past ++ steps) := by
  induction steps generalizing s past with
  | nil => simpa [SignalState.afterAll] using h
  | cons step rest ih =>
    rw [List.append_cons]
    exact ih (h.after step)

private theorem Reflects.flipsAt (h : s.Reflects past) :
    s.flipsAt step = true ↔ step = .toggle ∨ Delivers past step := by
  have handled : s.stop = .handler ↔ Handled past := by
    rw [h.stop]
    split <;> simp_all
  have unblocked : s.blocked = false ↔ ¬ Blocked past := by
    rw [← h.blocked, Bool.not_eq_true]
  cases step with
  | raise signal =>
    cases signal with
    | interrupt | resume => simp [SignalState.flipsAt, Delivers]
    | stop => simp [SignalState.flipsAt, Delivers, handled, unblocked, and_comm]
  | unblock =>
    have guarded : s.pending = true → s.guards ≠ 0 := fun pending => h.guarded (h.held pending)
    rw [SignalState.flipsAt, decide_eq_true_eq, Delivers, handled, ← h.pending]
    constructor
    · rintro ⟨-, pending, installed⟩
      exact .inr ⟨installed, .inr ⟨rfl, pending⟩⟩
    · rintro (⟨⟨⟩⟩ | ⟨installed, ⟨⟨⟩, -⟩ | ⟨-, pending⟩⟩)
      exact ⟨guarded pending, pending, installed⟩
  | _ => simp [SignalState.flipsAt, Delivers]

end SignalState

namespace SignalStep

instance : DecidablePred Waiting := fun past =>
  decidable_of_iff _ ((SignalState.ready_ofMode .interactive).reflects.afterAll past).pending

instance (past : List SignalStep) (step : SignalStep) : Decidable (Delivers past step) :=
  inferInstanceAs (Decidable (_ ∧ (_ ∧ ¬ _ ∨ _ ∧ _)))

/-- How many of some steps after a past exchange the mode that is asked for: the requests, and the
deliveries to the handler. -/
def exchanges (past : List SignalStep) : List SignalStep → Nat
  | [] => 0
  | step :: rest =>
    (if step = toggle ∨ Delivers past step then 1 else 0) + exchanges (past ++ [step]) rest

end SignalStep

namespace SignalState
open SignalStep

variable {s : SignalState} {past steps : List SignalStep}

theorem Reflects.flips (h : s.Reflects past) (steps : List SignalStep) :
    s.flips steps = exchanges past steps := by
  induction steps generalizing s past with
  | nil => rfl
  | cons step rest ih =>
    simp only [SignalState.flips, exchanges, ih (h.after step), ← h.flipsAt]
    cases s.flipsAt step <;> rfl

private theorem Reflects.isFatal_iff (h : s.Reflects past) (signal : TerminalSignal) :
    s.isFatal signal = true ↔
      signal = .interrupt ∧ lastInstalled past = some (.adopt false) := by
  cases signal with
  | interrupt =>
    rw [isFatal, h.interrupt]
    split <;> simp_all
  | stop =>
    rw [isFatal, h.stop]
    split <;> simp
  | resume => simp [isFatal]

/-- From the moment the handlers are installed and SIGTSTP is let through, what is done decides
everything. The mode that is asked for is the one that was set last, or else the one at the start,
exchanged once for each request and each delivery since. SIGTSTP is blocked exactly if the last guard
step was a creation. SIGTSTP never ends or stops the process, SIGINT does only under the dispositions
of a foreground child, and otherwise changes nothing. -/
theorem afterAll_counts_deliveries (ready : s.Ready) (steps : List SignalStep) :
    (∀ earlier mode later, steps = earlier ++ .set mode :: later → (∀ other, .set other ∉ later) →
      (s.afterAll steps).requested =
        Mode.toggled^[exchanges (earlier ++ [.set mode]) later] mode) ∧
    ((∀ mode, .set mode ∉ steps) →
      (s.afterAll steps).requested = Mode.toggled^[exchanges [] steps] s.requested) ∧
    ((s.afterAll steps).blocked = true ↔ Blocked steps) ∧
    (∀ signal, (s.afterAll steps).isFatal signal = true ↔
      signal = .interrupt ∧ lastInstalled steps = some (.adopt false)) ∧
    s.afterAll (steps ++ [.raise .interrupt]) = s.afterAll steps := by
  have start := ready.reflects
  have reflects := start.afterAll steps
  refine ⟨?_, fun noSet => ?_, reflects.blocked, reflects.isFatal_iff, ?_⟩
  · rintro earlier mode later rfl noSet
    have soFar : (s.afterAll (earlier ++ [.set mode])).Reflects (earlier ++ [.set mode]) :=
      start.afterAll _
    have set : (s.afterAll (earlier ++ [.set mode])).requested = mode := by
      rw [afterAll_append]
      rfl
    rw [List.append_cons, afterAll_append, requested_afterAll _ noSet, soFar.flips, set]
  · rw [requested_afterAll s noSet, start.flips]
  · rw [afterAll_append]
    rfl

/-- Held back three times under two guards, of which one is dropped: one delivery. -/
example : let steps := [.block, .block, .raise .stop, .raise .stop, .raise .stop, .unblock]
    exchanges [] steps = 1 ∧ ((ofMode .interactive).afterAll steps).requested = .foregroundOnly := by
  decide

/-- A set mode is exchanged by a SIGTSTP that was held back before; one that is held back when the
dispositions of a child are installed is gone, though the handlers are back before the guard is
dropped. -/
theorem afterAll_counts_deliveries_set_while_held :
    (ofMode .interactive).Ready ∧
    ((ofMode .interactive).afterAll
      ([.block, .raise .stop] ++ .set .foregroundOnly :: [.unblock])).requested = .interactive ∧
    ((ofMode .interactive).afterAll
      [.block, .raise .stop, .adopt false, .install, .unblock]).requested = .interactive := by
  have ready := ready_ofMode .interactive
  have held := (afterAll_counts_deliveries ready _).1 [.block, .raise .stop] .foregroundOnly
    [.unblock] rfl (by simp)
  have dropped := (afterAll_counts_deliveries ready
    [.block, .raise .stop, .adopt false, .install, .unblock]).2.1 (by simp)
  exact ⟨ready, held.trans (by decide), dropped.trans (by decide)⟩

/-- The dispositions of a child do not keep a SIGTSTP from being held back: raised while they are in
place and it is blocked, it is delivered once the handlers are back and the guard is dropped. -/
theorem held_back_under_child_dispositions :
    ¬ Handled [.block, .adopt true] ∧
    ((ofMode .interactive).afterAll
      [.block, .adopt true, .install, .unblock]).requested = .interactive ∧
    ((ofMode .interactive).afterAll
      [.block, .adopt true, .raise .stop, .install, .unblock]).requested = .foregroundOnly := by
  decide

end SignalState

end JobShell
