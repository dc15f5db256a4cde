import NetworkedFS.Spec.CriticalSection

/-!
# The flag after it is lost

A call of `runTask` that acquires the flag and then finds the exit flag of its manager set goes on
without clearing it.  This file says what the flag is still worth in the interleavings in which
that happens: two calls are never in the guarded section together, and after the flag is lost none
gets there any more, on any manager.

## Key results

- `exclusive_of_visited`: there is one holder at most, in every interleaving;
- `section_exclusive_until_lost`: what holds before and after the flag is lost.
-/

namespace NetworkedFS

namespace ConcurrencyWorld

variable {ι μ Fn Ref : Type} [DecidableEq ι] [DecidableEq μ] {platform : Platform Fn}
  {fuel : Nat} {w w' : ConcurrencyWorld ι μ Fn Ref}

/-- What the managers have to do. -/
def queues (w : ConcurrencyWorld ι μ Fn Ref) (m : μ) : List (ThreadTask Fn) :=
  (w.manager m).taskQueue

omit [DecidableEq ι] in
/-- One manager is replaced by one with the same queue. -/
theorem queues_update {m : μ} {s : Concurrency Fn Ref}
    (h : s.manager.taskQueue = w.queues m) : (w.update m s).queues = w.queues := by
  funext n
  by_cases hn : n = m
  · subst hn
    simp only [queues, update, Function.update_self]
    exact h
  · simp only [queues, update, Function.update_of_ne hn]

omit [DecidableEq ι] in
theorem queues_onManager {m : μ} {o : Unit}
    {f : ConcurrencyManager Fn Ref → Except Fault (ConcurrencyManager Fn Ref)}
    (hf : ∀ x y, f x = .ok y → y.taskQueue = x.taskQueue)
    (h : w.onManager m f = .ok (o, w')) : w'.queues = w.queues := by
  obtain ⟨x, hx, heq⟩ := Except.map_eq_ok_iff.mp h
  cases heq
  funext n
  by_cases hn : n = m
  · subst hn
    simp only [queues, Function.update_self]
    exact hf _ _ hx
  · simp only [queues, Function.update_of_ne hn]

/-- A phase outside of the section leaves the queue alone. -/
theorem taskQueue_advance {s s' : Concurrency Fn Ref} {phase phase' : RunPhase Fn}
    (hholds : phase.holds = false) (h : phase.advance platform fuel s = .ok (phase', s')) :
    s'.manager.taskQueue = s.manager.taskQueue := by
  cases phase with
  | outside =>
    cases h
    rfl
  | finishing started =>
    obtain ⟨r, hfinish, heq⟩ := Except.map_eq_ok_iff.mp h
    cases heq
    cases started with
    -- a call that has started nothing fails when it reports so
    | none => cases hfinish
    | some t =>
      cases hfinish
      rfl
  | _ => cases hholds

/-- While nobody holds the flag no task is started. -/
theorem queues_step {e : Event ι μ} {o : Unit} (hnone : ∀ i, (w.phase i).holds = false)
    (h : w.step platform fuel e = .ok (o, w')) : w'.queues = w.queues := by
  cases e with
  | call i m ignoreAllocation =>
    simp only [step] at h
    cases hphase : w.phase i with
    -- a call begins outside the section
    | outside =>
      simp only [hphase] at h
      cases h
      exact queues_update rfl
    | _ =>
      simp only [hphase] at h
      cases h
      rfl
  | advance i =>
    obtain ⟨⟨phase, s⟩, hadvance, heq⟩ := Except.map_eq_ok_iff.mp h
    cases heq
    -- a phase without the lock takes no task
    exact queues_update (taskQueue_advance (hnone i) hadvance)
  | setTasks m =>
    -- the other calls set flags of their manager
    refine queues_onManager (fun x y hy => ?_) h
    obtain ⟨-, rfl⟩ := ConcurrencyManager.setTasks_eq_ok hy
    rfl
  | endTasks m =>
    refine queues_onManager (fun x y hy => ?_) h
    obtain ⟨-, rfl⟩ := ConcurrencyManager.endTasks_eq_ok hy
    rfl
  | endAllTasks m =>
    refine queues_onManager (fun x y hy => ?_) h
    obtain ⟨-, rfl⟩ := ConcurrencyManager.endAllTasks_eq_ok hy
    rfl

/-- A call that finds the exit flag set starts nothing. -/
theorem queues_of_findsExit {e : Event ι μ} {o : Unit} (hfinds : w.FindsExit e)
    (h : w.step platform fuel e = .ok (o, w')) : w'.queues = w.queues := by
  obtain ⟨i, b, rfl, hphase, hexit⟩ := hfinds
  obtain ⟨⟨phase, s⟩, hadvance, heq⟩ := Except.map_eq_ok_iff.mp h
  cases heq
  have hview : (w.view (w.target i)).manager.scheduledExitSet = true := hexit
  simp only [hphase, RunPhase.advance, hview] at hadvance
  cases hadvance
  exact queues_update rfl

/-! ## Interleavings -/

/-- There is one holder at most, also when the flag is left set. -/
theorem exclusive_of_visited {events : List (Event ι μ)} (hw : w.lock.Exclusive) :
    ∀ t ∈ StepRun.visited (step platform fuel) w events, t.lock.Exclusive := by
  refine StepRun.forall_visited_of_ops (I := fun t : ConcurrencyWorld ι μ Fn Ref =>
    t.lock.Exclusive) (P := fun _ => True) ?_ hw fun _ _ => trivial
  intro t e o t' ht _ hok
  obtain ⟨act, hstep, -⟩ := step_act hok
  exact ht.step hstep

/-- A lost flag stays lost, and the queues stay as they are. -/
theorem lost_of_visited {events : List (Event ι μ)} (hw : w.lock.Lost) :
    ∀ t ∈ StepRun.visited (step platform fuel) w events, t.lock.Lost ∧ t.queues = w.queues := by
  refine StepRun.forall_visited_of_ops (I := fun t : ConcurrencyWorld ι μ Fn Ref =>
    t.lock.Lost ∧ t.queues = w.queues) (P := fun _ => True) ?_ ⟨hw, rfl⟩ fun _ _ => trivial
  intro t e o t' ht _ hok
  obtain ⟨act, hstep, -⟩ := step_act hok
  have hlock : t'.lock = t.lock := ht.1.eq_of_step hstep
  exact ⟨hlock ▸ ht.1, (queues_step ht.1.none_holds hok).trans ht.2⟩

/-- In every interleaving of `runTask` calls with the setting of exit flags: one call at most is
    between acquiring the flag and clearing it; and when a call has acquired the flag and finds
    the exit flag set, none is ever again, and no manager starts a task. -/
theorem section_exclusive_until_lost (platform : Platform Fn) (fuel : Nat)
    (statics : ConcurrencyStatics) (manager : μ → ConcurrencyManager Fn Ref) (target : ι → μ)
    (events : List (Event ι μ)) :
    ∀ w ∈ StepRun.visited (step platform fuel) (initial statics manager target) events,
      (∀ i j, (w.phase i).holds = true → (w.phase j).holds = true → i = j) ∧
      ∀ e o w', w.FindsExit e → w.step platform fuel e = .ok (o, w') → ∀ later,
        ∀ t ∈ StepRun.visited (step platform fuel) w' later,
          (∀ i, (t.phase i).holds = false) ∧ ∀ m, (t.manager m).taskQueue =
            (w.manager m).taskQueue := by
  intro w hw
  have hinitial := (flagExact_iff_exact _).mp (flagExact_initial statics manager target)
  have hexclusive := exclusive_of_visited hinitial.exclusive w hw
  refine ⟨hexclusive.unique, fun e o w' hfinds hok later t ht => ?_⟩
  obtain ⟨act, hstep, habandons, -⟩ := step_act hok
  have hlost := hexclusive.lost_of_abandon hstep (habandons.mpr hfinds)
  obtain ⟨hlater, hqueues⟩ := lost_of_visited hlost t ht
  exact ⟨hlater.none_holds, congrFun (hqueues.trans (queues_of_findsExit hfinds hok))⟩

/-- Two callers of a manager whose tasks were ended; one has acquired the flag. -/
def exitAhead : ConcurrencyWorld Bool Unit Unit Unit :=
  StepRun.final (step .quadCore 1) (initial {} (fun _ => launched) fun _ => ())
    [.endTasks (), .call false () false]

theorem section_exclusive_until_lost_exitAhead :
    exitAhead.FindsExit (.advance false) ∧
      ∀ o w', exitAhead.step .quadCore 1 (.advance false) = .ok (o, w') → ∀ later,
        ∀ t ∈ StepRun.visited (step .quadCore 1) w' later, ∀ i, (t.phase i).holds = false := by
  have hfinds : exitAhead.FindsExit (.advance false) := ⟨false, false, rfl, rfl, rfl⟩
  refine ⟨hfinds, fun o w' hok later t ht => ?_⟩
  have hlost := section_exclusive_until_lost .quadCore 1 {} (fun _ => launched) (fun _ => ())
    [.endTasks (), .call false () false] exitAhead (StepRun.final_mem_visited _ _)
  exact (hlost.2 _ o w' hfinds hok later t ht).1

end ConcurrencyWorld

end NetworkedFS
