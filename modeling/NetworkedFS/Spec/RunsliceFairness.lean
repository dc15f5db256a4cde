import NetworkedFS.Spec.RunsliceRegistry

/-!
# Starvation in the slice scheduler

`run()` alternates between its two queues by the counter `scheduler_priority_runs_last`.
The two pairs of updates at the end of `run()` are coupled: what one adds, a product
takes away again, because each threshold is the value that one addition reaches.  So
the counter is zero in every reachable state, and a priority entry is executed only
when the normal queue is empty.
-/

namespace NetworkedFS

namespace SchedulerRunslice

variable {Fn Args : Type}

/-- The `PRIORITY_CYCLES` constant of a mode. -/
def priorityCycles : RunsliceMode → Option Int8
  | .roundRobin => some roundRobinPriorityCycles
  | .priorityRoundRobin => some priorityRoundRobinPriorityCycles
  | .priorityOnlyRoundRobin => none

/-- What `n` consecutive calls of `run()` give back. -/
def runWindow (s : SchedulerRunslice Fn Args) (n : Nat) : List (Output Fn Args) :=
  StepRun.outputs step s (List.replicate n .run)

/-- The outputs of a window show an execution from each queue. -/
def ServesBoth (outputs : List (Output Fn Args)) : Prop :=
  ∀ isPriority, ∃ x, Output.ran (some x) ∈ outputs ∧ x.isPriority = isPriority

/-! ## The counter -/

/-- The updates take a zero counter back to zero, in every mode. -/
theorem nextPriorityRunsLast_zero (mode : RunsliceMode) : nextPriorityRunsLast mode 0 = 0 := by
  cases mode <;> decide

/-- The counter never leaves zero. -/
theorem priorityRunsLast_eq_zero {s : SchedulerRunslice Fn Args}
    (hs : StepRun.Reachable step construct s) : s.priorityRunsLast = 0 := by
  -- the counter is kept, reset, or updated, and all three keep it at zero
  apply hs.invariant (I := fun s => s.priorityRunsLast = 0) rfl
  intro s op o s' hzero hok
  obtain ⟨act, heffect⟩ := step_effect hok
  cases heffect.counter with
  | inl hsame => rw [hsame, hzero]
  | inr hrest =>
    cases hrest with
    | inl hreset => exact hreset
    | inr hnext => rw [hnext, hzero, nextPriorityRunsLast_zero]

/-- With a zero counter a round robin `run()` takes the normal queue, unless it is
    empty. -/
theorem runsPriority_eq_false {s : SchedulerRunslice Fn Args} {c : Int8}
    (hzero : s.priorityRunsLast = 0) (hmode : priorityCycles s.mode = some c)
    (hnormal : s.normalQueue ≠ []) : s.runsPriority = false := by
  have htakes : s.takesPriority = false := by
    simp [takesPriority, hzero, hnormal]
  unfold runsPriority
  cases hm : s.mode with
  | priorityOnlyRoundRobin =>
    rw [hm] at hmode
    cases hmode
  | roundRobin => exact htakes
  | priorityRoundRobin => exact htakes

/-! ## Windows -/

/-- As long as the normal queue has an entry, a window of any length executes from it
    alone. -/
theorem runWindow_normal (n : Nat) {s : SchedulerRunslice Fn Args} {c : Int8}
    (hs : StepRun.Reachable step construct s) (hmode : priorityCycles s.mode = some c)
    (hnormal : s.normalQueue ≠ []) :
    ∀ x, Output.ran (some x) ∈ s.runWindow n → x.isPriority = false := by
  -- induction on the length; each `run()` leads to a state that is reachable again
  induction n generalizing s with
  | zero =>
    intro x hx
    exact absurd hx List.not_mem_nil
  | succ n ih =>
    intro x hx
    simp only [runWindow, List.replicate_succ, StepRun.outputs] at hx
    cases hok : s.step .run with
    | error f =>
      rw [hok] at hx
      exact absurd hx List.not_mem_nil
    | ok r =>
      obtain ⟨o, s'⟩ := r
      rw [hok] at hx
      -- a `run()` that returns changes neither the mode nor a queue
      obtain ⟨⟨y, t⟩, hrun, heq⟩ := Except.map_eq_ok_iff.mp hok
      cases heq
      obtain ⟨-, e, v, -, -, rfl, rfl⟩ := run_eq_ok_iff.mp hrun
      rcases List.mem_cons.mp hx with heq | hx
      · cases heq
        exact runsPriority_eq_false (priorityRunsLast_eq_zero hs) hmode hnormal
      · exact ih (hs.step hok) hmode hnormal x hx

/-- In a round robin mode with entries in both queues, no window of `run()` calls of
    the promised length serves both queues. -/
theorem runWindow_starves_priority {s : SchedulerRunslice Fn Args} {c : Int8}
    (hs : StepRun.Reachable step construct s) (hmode : priorityCycles s.mode = some c)
    (hqueues : ∀ isPriority, s.queue isPriority ≠ []) :
    ¬ ServesBoth (s.runWindow (c.toInt.toNat + 2)) := by
  intro hserves
  obtain ⟨x, hx, hpriority⟩ := hserves true
  have hnormal := runWindow_normal _ hs hmode (hqueues false) x hx
  rw [hpriority] at hnormal
  cases hnormal

/-- Two persistent tasks, one in each queue. -/
def twoTasks : List (Op Unit Unit) :=
  [.enqueueRegistration 1 (some ()) false true, .enqueueRegistration 2 (some ()) true true]

theorem runWindow_starves_priority_twoTasks :
    ¬ ServesBoth ((StepRun.final step construct twoTasks).runWindow 3) :=
  runWindow_starves_priority (StepRun.Reachable.init.final twoTasks) rfl
    (fun isPriority => by cases isPriority <;> decide)

/-- From the two tasks three calls of `run()` return, and the priority task is not
    among what they execute. -/
theorem twoTasks_not_served :
    ¬ ∀ (s : SchedulerRunslice Unit Unit) (c : Int8), StepRun.Reachable step construct s →
      priorityCycles s.mode = some c → (∀ isPriority, s.queue isPriority ≠ []) →
      (s.runWindow (c.toInt.toNat + 2)).length = c.toInt.toNat + 2 →
      ServesBoth (s.runWindow (c.toInt.toNat + 2)) := by
  intro hall
  have hreach : StepRun.Reachable step construct (StepRun.final step construct twoTasks) :=
    StepRun.Reachable.init.final twoTasks
  obtain ⟨x, hx, hpriority⟩ := hall (StepRun.final step construct twoTasks) 1 hreach rfl
    (fun isPriority => by cases isPriority <;> decide) (by decide) true
  have hnormal := runWindow_normal _ hreach (c := 1) rfl (by decide) x hx
  rw [hpriority] at hnormal
  cases hnormal

end SchedulerRunslice

end NetworkedFS
