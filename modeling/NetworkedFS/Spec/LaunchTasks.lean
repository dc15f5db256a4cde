import NetworkedFS.Spec.TaskRequeue

/-!
# Launching all tasks

`setAllTasks` and `forceTasks` call `runTask` a number of times.  A `runTask` that starts no
task fails its assertion, so a loop that returns has started one task a round, from the back
of the queue on, and needs no second try.

## Key results

- `startTasks_returns_iff`: when a number of calls of `runTask` return;
- `launchesEach_iff`: `setAllTasks` starts all queued tasks exactly when the scheduled exit
  flag is unset already, their number fits the `short` that counts them, and so on.
-/

namespace NetworkedFS

namespace Concurrency

variable {Fn Ref : Type}

/-! ## A number of calls of `runTask` -/

/-- Calls `runTask` a number of times: the tasks that were started, in order. -/
def startTasks (platform : Platform Fn) (fuel : Nat) (ignoreAllocation : Bool) :
    Nat → Concurrency Fn Ref → Except Fault (List (ThreadTask Fn) × Concurrency Fn Ref)
  | 0, s => .ok ([], s)
  | times + 1, s => do
    let (first, s) ← s.runTask platform fuel ignoreAllocation
    let (rest, s) ← startTasks platform fuel ignoreAllocation times s
    return (first.toList ++ rest, s)

/-- A loop over `runTask` is these calls. -/
theorem repeatCall_runTask (platform : Platform Fn) (fuel : Nat) (ignoreAllocation : Bool)
    (times : Nat) (s : Concurrency Fn Ref) :
    repeatCall (fun s => (s.runTask platform fuel ignoreAllocation).map Prod.snd) times s =
      (startTasks platform fuel ignoreAllocation times s).map Prod.snd := by
  induction times generalizing s with
  | zero => rfl
  | succ times ih =>
    simp only [repeatCall, startTasks]
    cases s.runTask platform fuel ignoreAllocation with
    | error e => rfl
    | ok x =>
      obtain ⟨first, s₁⟩ := x
      show repeatCall _ times s₁ = Except.map Prod.snd (do
        let (rest, s) ← startTasks platform fuel ignoreAllocation times s₁
        return (first.toList ++ rest, s))
      rw [ih s₁]
      cases startTasks platform fuel ignoreAllocation times s₁ <;> rfl

/-- Waiting for `runTask` to start a task is calling it once: it does not return without
    one. -/
theorem runUntilStarted_eq (platform : Platform Fn) (fuel tries : Nat) (s : Concurrency Fn Ref) :
    runUntilStarted platform fuel (tries + 1) s =
      (s.runTask platform fuel false).map Prod.snd := by
  rw [runUntilStarted]
  cases hrun : s.runTask platform fuel false with
  | error e => rfl
  | ok x =>
    obtain ⟨t, heq, -⟩ := runTask_starts hrun
    obtain ⟨y, s₁⟩ := x
    obtain rfl : y = some t := heq
    rfl

/-- The tasks that a call of `setAllTasks` starts, and what it leaves. -/
def setAllTasksLog (platform : Platform Fn) (fuel : Nat) (s : Concurrency Fn Ref) :
    Except Fault (List (ThreadTask Fn) × Concurrency Fn Ref) := do
  let listSize := Int16.ofNat s.manager.taskQueue.length
  let (started, s) ← startTasks platform fuel false listSize.toInt.toNat s
  return (started, { s with manager := { s.manager with
    scheduledExitSet := false
    permanentExitSet := false
    primaryLaunchRan := true } })

/-- The log of `setAllTasks` is a log of `setAllTasks`. -/
theorem setAllTasks_eq_log (platform : Platform Fn) (fuel : Nat) (s : Concurrency Fn Ref) :
    s.setAllTasks platform (fuel + 1) = (s.setAllTasksLog platform (fuel + 1)).map Prod.snd := by
  have hbody : runUntilStarted platform (fuel + 1) (fuel + 1) =
      fun s : Concurrency Fn Ref => (s.runTask platform (fuel + 1) false).map Prod.snd := by
    funext s
    exact runUntilStarted_eq platform (fuel + 1) fuel s
  rw [setAllTasks, setAllTasksLog, hbody, repeatCall_runTask]
  cases startTasks platform (fuel + 1) false _ s <;> rfl

/-! ## When the calls return -/

/-- What a call of `runTask` leaves for the next one: the queue without its last task, the
    guards as they were, and the critical section free. -/
theorem runTask_leaves {platform : Platform Fn} {fuel : Nat} {s s' : Concurrency Fn Ref}
    {ignoreAllocation : Bool} {x : Option (ThreadTask Fn)}
    (h : s.runTask platform fuel ignoreAllocation = .ok (x, s')) :
    ∃ t, x = some t ∧ s.manager.taskQueue = s'.manager.taskQueue ++ [t] ∧
      s'.statics.criticalSection = false ∧
      s'.manager.scheduledExitSet = s.manager.scheduledExitSet ∧
      s'.manager.exitFlag = s.manager.exitFlag ∧
      s'.availableAllocation platform = s.availableAllocation platform := by
  obtain ⟨t, rfl, hlast, -, table, stale, rfl⟩ := runTask_counters h
  refine ⟨t, rfl, ?_, rfl, rfl, rfl, ?_⟩
  · exact (List.dropLast_append_getLast? t hlast).symm
  · -- the counter goes up for the new thread, and down for the popped copy
    show _ - (s.statics.runningScheduledTasks + 1 - 1) = _
    rw [Int16.add_sub_cancel]
    rfl

/-- What `times` calls of `runTask` need. -/
structure CanStart (platform : Platform Fn) (ignoreAllocation : Bool) (times : Nat)
    (s : Concurrency Fn Ref) : Prop where
  criticalSection : s.statics.criticalSection = false
  scheduledExit : s.manager.scheduledExitSet = false
  allocation : s.availableAllocation platform > 0 ∨ ignoreAllocation = true
  length : times ≤ s.manager.taskQueue.length
  destroyable : ∀ t ∈ s.manager.taskQueue.reverse.take times, s.Destroyable t

/-- After a call that returned, one call less is needed. -/
theorem canStart_succ_iff {platform : Platform Fn} {fuel times : Nat} {s s' : Concurrency Fn Ref}
    {ignoreAllocation : Bool} {x : Option (ThreadTask Fn)}
    (h : s.runTask platform fuel ignoreAllocation = .ok (x, s')) :
    CanStart platform ignoreAllocation (times + 1) s ↔
      CanStart platform ignoreAllocation times s' := by
  obtain ⟨t, rfl, hqueue, hfree, hscheduled, hexit, havailable⟩ := runTask_leaves h
  obtain ⟨u, hstarts, hu⟩ := runTask_returns_iff.mp ⟨_, h⟩
  -- the task that was started is the one at the back
  obtain rfl : t = u := by
    have hlast := hstarts.getLast
    rw [hqueue, List.getLast?_concat] at hlast
    exact Option.some.inj hlast
  have hdestroyable : ∀ v, s.Destroyable v ↔ s'.Destroyable v := by
    intro v
    rw [Destroyable, Destroyable, hexit]
  -- the next tasks are those in front of it, and the exit flags are the same
  constructor
  · rintro ⟨-, hscheduled₁, hallocation, hlength, hall⟩
    rw [hqueue, List.reverse_append, List.reverse_singleton, List.singleton_append,
      List.take_succ_cons] at hall
    rw [hqueue, List.length_append, List.length_singleton] at hlength
    refine ⟨hfree, hscheduled.trans hscheduled₁, havailable ▸ hallocation, by omega, ?_⟩
    intro v hv
    exact (hdestroyable v).mp (hall v (List.mem_cons_of_mem _ hv))
  · rintro ⟨-, -, -, hlength, hall⟩
    refine ⟨hstarts.criticalSection, hstarts.scheduledExit, hstarts.allocation, ?_, ?_⟩
    · rw [hqueue, List.length_append, List.length_singleton]
      omega
    · rw [hqueue, List.reverse_append, List.reverse_singleton, List.singleton_append,
        List.take_succ_cons]
      intro v hv
      rcases List.mem_cons.mp hv with rfl | hv
      · exact hu
      · exact (hdestroyable v).mpr (hall v hv)

/-- The next call can start the task at the back of the queue. -/
theorem CanStart.starts {platform : Platform Fn} {times : Nat} {s : Concurrency Fn Ref}
    {ignoreAllocation : Bool} (h : CanStart platform ignoreAllocation (times + 1) s) :
    ∃ t, s.Starts platform ignoreAllocation t ∧ s.Destroyable t := by
  obtain ⟨hcritical, hscheduled, hallocation, hlength, hall⟩ := h
  cases hreverse : s.manager.taskQueue.reverse with
  | nil =>
    rw [List.reverse_eq_nil_iff] at hreverse
    rw [hreverse] at hlength
    cases hlength
  | cons t rest =>
    have hlast : s.manager.taskQueue.getLast? = some t := by
      rw [List.getLast?_eq_head?_reverse, hreverse, List.head?_cons]
    rw [hreverse, List.take_succ_cons] at hall
    exact ⟨t, ⟨hcritical, hscheduled, hlast, hallocation⟩, hall t List.mem_cons_self⟩

/-- A number of calls of `runTask` return exactly when they can all start a task. -/
theorem startTasks_returns_iff {platform : Platform Fn} {fuel times : Nat}
    {ignoreAllocation : Bool} {s : Concurrency Fn Ref} :
    (∃ x, startTasks platform fuel ignoreAllocation times s = .ok x) ↔
      times = 0 ∨ CanStart platform ignoreAllocation times s := by
  -- induction on the calls; the first one leaves the guards for the others as they were
  induction times generalizing s with
  | zero => exact ⟨fun _ => .inl rfl, fun _ => ⟨_, rfl⟩⟩
  | succ times ih =>
    constructor
    · rintro ⟨x, hok⟩
      obtain ⟨⟨first, s₁⟩, hfirst, hrest⟩ := Except.bind_eq_ok_iff.mp hok
      obtain ⟨y, hrest, -⟩ := Except.bind_eq_ok_iff.mp hrest
      refine .inr ((canStart_succ_iff hfirst).mpr ?_)
      rcases ih.mp ⟨y, hrest⟩ with rfl | hcan
      · obtain ⟨t, -, -, hfree, hscheduled, -, havailable⟩ := runTask_leaves hfirst
        obtain ⟨u, -, hstarts⟩ := runTask_starts hfirst
        exact ⟨hfree, hscheduled.trans hstarts.scheduledExit, havailable ▸ hstarts.allocation,
          Nat.zero_le _, fun _ h => absurd h List.not_mem_nil⟩
      · exact hcan
    · rintro (hzero | hcan)
      · cases hzero
      · obtain ⟨⟨first, s₁⟩, hfirst⟩ := runTask_returns_iff.mpr hcan.starts
        obtain ⟨⟨rest, s₂⟩, hrest⟩ := ih.mpr (.inr ((canStart_succ_iff hfirst).mp hcan))
        refine ⟨(first.toList ++ rest, s₂), ?_⟩
        rw [startTasks, hfirst]
        show (do
          let (rest, s) ← startTasks platform fuel ignoreAllocation times s₁
          return (first.toList ++ rest, s)) = _
        rw [hrest]
        rfl

/-- Calls of `runTask` that return have started one task each, from the back of the queue. -/
theorem startTasks_eq_ok {platform : Platform Fn} {fuel times : Nat} {ignoreAllocation : Bool}
    {s s' : Concurrency Fn Ref} {started : List (ThreadTask Fn)}
    (h : startTasks platform fuel ignoreAllocation times s = .ok (started, s')) :
    started.length = times ∧
      s.manager.taskQueue = s'.manager.taskQueue ++ started.reverse := by
  induction times generalizing s started with
  | zero =>
    cases h
    exact ⟨rfl, (List.append_nil _).symm⟩
  | succ times ih =>
    obtain ⟨⟨first, s₁⟩, hfirst, h⟩ := Except.bind_eq_ok_iff.mp h
    obtain ⟨⟨rest, s₂⟩, hrest, heq⟩ := Except.bind_eq_ok_iff.mp h
    cases heq
    obtain ⟨t, rfl, hqueue, -⟩ := runTask_leaves hfirst
    obtain ⟨hlength, hrestQueue⟩ := ih hrest
    refine ⟨congrArg (· + 1) hlength, ?_⟩
    rw [hqueue, hrestQueue, List.append_assoc]
    simp

/-! ## Launching all tasks -/

/-- The `short` counts the queue right exactly when its length fits. -/
theorem toNat_listSize_eq_iff (n : Nat) : (Int16.ofNat n).toInt.toNat = n ↔ n < 2 ^ 15 := by
  constructor
  · intro h
    have hlt := Int16.toInt_lt (Int16.ofNat n)
    omega
  · intro h
    rw [Int16.toInt_ofNat_of_lt h, Int.toNat_natCast]

/-- What `setAllTasks` should do: return, with every queued task started once, the queue
    empty and both exit flags unset. -/
def LaunchesEach (platform : Platform Fn) (s : Concurrency Fn Ref) : Prop :=
  ∃ fuel started s', s.setAllTasks platform (fuel + 1) = .ok s' ∧
    s.setAllTasksLog platform (fuel + 1) = .ok (started, s') ∧
    started.Perm s.manager.taskQueue ∧ s'.manager.taskQueue = [] ∧
    s'.manager.scheduledExitSet = false ∧ s'.manager.permanentExitSet = false

/-- Every call of `runTask` in the loop of `setAllTasks` finds a task that it can start. -/
structure ReadyToLaunch (platform : Platform Fn) (s : Concurrency Fn Ref) : Prop where
  criticalSection : s.statics.criticalSection = false
  scheduledExit : s.manager.scheduledExitSet = false
  allocation : s.availableAllocation platform > 0
  length : s.manager.taskQueue.length < 2 ^ 15
  permanentExit : ∀ t ∈ s.manager.taskQueue, t.isPermanent = true →
    s.manager.permanentExitSet = true

/-- For a queue without reoccuring tasks, being ready is being able to call `runTask` once
    for each task. -/
theorem readyToLaunch_iff {platform : Platform Fn} {s : Concurrency Fn Ref}
    (hr : ∀ t ∈ s.manager.taskQueue, t.isReoccuring = false) :
    s.ReadyToLaunch platform ↔ s.manager.taskQueue.length < 2 ^ 15 ∧
      CanStart platform false s.manager.taskQueue.length s := by
  have hall : s.manager.taskQueue.reverse.take s.manager.taskQueue.length =
      s.manager.taskQueue.reverse :=
    List.take_of_length_le (List.length_reverse).le
  have hexit : ∀ t ∈ s.manager.taskQueue,
      (s.Destroyable t ↔ (t.isPermanent = true → s.manager.permanentExitSet = true)) := by
    intro t ht
    rw [Destroyable, hr t ht]
    cases hp : t.isPermanent <;> simp [ConcurrencyManager.exitFlag]
  constructor
  · rintro ⟨hcritical, hscheduled, hallocation, hlength, hpermanent⟩
    refine ⟨hlength, hcritical, hscheduled, .inl hallocation, le_rfl, ?_⟩
    intro t ht
    rw [hall, List.mem_reverse] at ht
    exact (hexit t ht).mpr (hpermanent t ht)
  · rintro ⟨hlength, hcritical, hscheduled, hallocation, -, hdestroyable⟩
    refine ⟨hcritical, hscheduled, ?_, hlength, ?_⟩
    · exact hallocation.resolve_right Bool.false_ne_true
    · intro t ht
      refine (hexit t ht).mp (hdestroyable t ?_)
      rw [hall, List.mem_reverse]
      exact ht

/-- `setAllTasks` starts every task of a queue without reoccuring tasks once exactly when
    the queue is empty, or it is short enough, the critical section is free, a processor is
    free, no scheduled exit is set, and each permanent task finds its exit flag set. -/
theorem launchesEach_iff (platform : Platform Fn) (s : Concurrency Fn Ref)
    (hr : ∀ t ∈ s.manager.taskQueue, t.isReoccuring = false) :
    s.LaunchesEach platform ↔ s.manager.taskQueue = [] ∨ s.ReadyToLaunch platform := by
  rw [readyToLaunch_iff hr]
  constructor
  · rintro ⟨fuel, started, s', -, hlog, hperm, -⟩
    obtain ⟨⟨started', s₁⟩, hstart, heq⟩ := Except.bind_eq_ok_iff.mp hlog
    cases heq
    -- one task was started in each round, and there are as many of them as in the queue
    have hlength := (startTasks_eq_ok hstart).1
    rw [hperm.length_eq] at hlength
    rw [← hlength] at hstart
    rcases startTasks_returns_iff.mp ⟨_, hstart⟩ with hzero | hcan
    · exact .inl (List.length_eq_zero_iff.mp hzero)
    · exact .inr ⟨(toNat_listSize_eq_iff _).mp hlength.symm, hcan⟩
  · intro hready
    have hsize : (Int16.ofNat s.manager.taskQueue.length).toInt.toNat =
        s.manager.taskQueue.length := by
      rcases hready with hnil | ⟨hlength, -⟩
      · rw [hnil]
        rfl
      · exact (toNat_listSize_eq_iff _).mpr hlength
    have hcan : s.manager.taskQueue.length = 0 ∨
        CanStart platform false s.manager.taskQueue.length s :=
      hready.imp (fun hnil => List.length_eq_zero_iff.mpr hnil) And.right
    obtain ⟨⟨started, s₁⟩, hstart⟩ := startTasks_returns_iff.mpr hcan
    obtain ⟨hlength, hqueue⟩ := startTasks_eq_ok hstart
    -- nothing is left when as many tasks were started as there were
    have hnil : s₁.manager.taskQueue = [] := by
      have := congrArg List.length hqueue
      rw [List.length_append, List.length_reverse, hlength] at this
      exact List.length_eq_zero_iff.mp (by omega)
    have hlog : ∃ s', s.setAllTasksLog platform 1 = .ok (started, s') ∧
        s'.manager.taskQueue = s₁.manager.taskQueue ∧ s'.manager.scheduledExitSet = false ∧
        s'.manager.permanentExitSet = false := by
      rw [setAllTasksLog, hsize, hstart]
      exact ⟨_, rfl, rfl, rfl, rfl⟩
    obtain ⟨s', hlog, hleft, hflags⟩ := hlog
    refine ⟨0, started, s', ?_, hlog, ?_, hleft.trans hnil, hflags⟩
    · rw [setAllTasks_eq_log, hlog]
      rfl
    · rw [hqueue, hnil, List.nil_append]
      exact (List.reverse_perm started).symm

/-- A fresh manager that was given two tasks starts both. -/
theorem launchesEach_two :
    (StepRun.final (step .quadCore 1) (construct .quadCore {} : Concurrency Unit Unit)
      [.enqueueTask false false false () [],
        .enqueueTask true false false () []]).LaunchesEach .quadCore :=
  (launchesEach_iff .quadCore _ (by decide)).mpr
    (.inr ⟨by decide, by decide, by decide, by decide, by decide⟩)

/-- After `endAllTasks` the scheduled exit flag stays set, so the first `runTask` of a
    restart fails. -/
theorem restart_not_launched :
    ¬ ∀ ops : List (Op Unit Unit),
      let s := StepRun.final (step .quadCore 1) (construct .quadCore {}) ops
      s.manager.primaryLaunchRan = false →
      (∀ t ∈ s.manager.taskQueue, t.isReoccuring = false) → s.LaunchesEach .quadCore := by
  intro hall
  obtain ⟨fuel, started, s', hok, -⟩ := hall
    [.setAllTasks, .endAllTasks, .enqueueTask false false false () []] (by decide) (by decide)
  cases hok

end Concurrency

end NetworkedFS
