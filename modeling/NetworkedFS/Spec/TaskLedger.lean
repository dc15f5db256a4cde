import NetworkedFS.Spec.ForwardTasks

/-!
# The tasks of a manager along a run

What became of every task that a manager was ever given, as far as calls return.  A permanent
or a reoccuring task gets into the queue only while its exit flag is set, and out of it only
while its exit flag is set and the scheduled one is not.  No state of a run has both flags so,
which leaves these tasks in the queue for good.  All others are started once or still wait, and
in the order in which they came unless tasks are forwarded.

`runTask` creates the thread of a task before the destructor of the task asks for the flags.  So
the call that does not return may have started a task, a permanent or reoccuring one too; the
ledger has those of the calls before it.

## Key results

- `stepStarts_cases`: what one call takes into the queue, and what it starts;
- `tasks_conserved`: along every run the started and the waiting tasks are the enqueued ones,
  and no call that returned has started a permanent or reoccuring task;
- `scheduled_in_order`: without forwarding, the scheduled tasks are started in their order.
-/

namespace NetworkedFS

variable {Fn Ref : Type}

/-- What a task is enqueued with. -/
structure TaskRequest (Fn : Type) where
  isJoin : Bool
  isPermanent : Bool
  isReoccuring : Bool
  function : Fn
  parameters : List String
  deriving DecidableEq

/-- What a task was enqueued with. -/
def ThreadTask.request (t : ThreadTask Fn) : TaskRequest Fn where
  isJoin := t.isJoin
  isPermanent := t.isPermanent
  isReoccuring := t.isReoccuring
  function := t.saveFunction
  parameters := t.saveParameters

/-- The task is neither permanent nor reoccuring. -/
def ThreadTask.isPlain (t : ThreadTask Fn) : Bool := !t.isPermanent && !t.isReoccuring

namespace ConcurrencyManager

/-- The permanent exit flag is set only by `endAllTasks`, and what unsets the other flag that
    `endAllTasks` sets has to wait for the next launch. -/
def ExitsTogether (m : ConcurrencyManager Fn Ref) : Prop :=
  m.permanentExitSet = true → m.scheduledExitSet = true ∧ m.primaryLaunchRan = false

/-- What the two flags and the launch depend on. -/
theorem ExitsTogether.congr {m m' : ConcurrencyManager Fn Ref} (h : m.ExitsTogether)
    (hflag : m'.exitFlag = m.exitFlag) (hran : m'.primaryLaunchRan = m.primaryLaunchRan) :
    m'.ExitsTogether := by
  have hpermanent : m'.permanentExitSet = m.permanentExitSet := congrFun hflag true
  have hscheduled : m'.scheduledExitSet = m.scheduledExitSet := congrFun hflag false
  unfold ExitsTogether
  rw [hpermanent, hscheduled, hran]
  exact h

/-- Once the launch ran, the permanent exit flag is not set. -/
theorem ExitsTogether.of_ran {m m' : ConcurrencyManager Fn Ref} (h : m.ExitsTogether)
    (hran : m.primaryLaunchRan = true) (hflag : m'.permanentExitSet = m.permanentExitSet) :
    m'.ExitsTogether := by
  intro hpermanent
  rw [hflag] at hpermanent
  rw [(h hpermanent).2] at hran
  cases hran

/-- The tasks and the flags are as before. -/
def SameTasks (m m' : ConcurrencyManager Fn Ref) : Prop :=
  m'.taskQueue = m.taskQueue ∧ m'.exitFlag = m.exitFlag ∧
    m'.primaryLaunchRan = m.primaryLaunchRan

/-- Reporting an error leaves the tasks alone. -/
theorem sameTasks_report {m m' : ConcurrencyManager Fn Ref} {error : ConcurrencyError}
    {b b' : Bool} (h : (m.report error).map (fun m => (b, m)) = .ok (b', m')) :
    SameTasks m m' := by
  obtain ⟨m₁, hm₁, heq⟩ := Except.map_eq_ok_iff.mp h
  obtain ⟨d, rfl⟩ := report_eq_ok hm₁
  cases heq
  exact ⟨rfl, rfl, rfl⟩

/-- Enlisting a variable leaves the tasks alone. -/
theorem sameTasks_enlistCommonVariable {m m' : ConcurrencyManager Fn Ref} {reference : Ref}
    {lookup : String} {b : Bool} (h : m.enlistCommonVariable reference lookup = .ok (b, m')) :
    SameTasks m m' := by
  unfold enlistCommonVariable at h
  split at h
  · cases h
    exact ⟨rfl, rfl, rfl⟩
  · exact sameTasks_report h

/-- Removing a variable leaves the tasks alone. -/
theorem sameTasks_removeCommonVariable {m m' : ConcurrencyManager Fn Ref} {lookup : String}
    {b : Bool} (h : m.removeCommonVariable lookup = .ok (b, m')) : SameTasks m m' := by
  unfold removeCommonVariable at h
  split at h
  · split at h
    · split at h
      · cases h
        exact ⟨rfl, rfl, rfl⟩
      · exact sameTasks_report h
    · exact sameTasks_report h
  · exact sameTasks_report h

/-- Writing a lock leaves the tasks alone. -/
theorem sameTasks_writeLock (m : ConcurrencyManager Fn Ref) (pointer : EntryPointer)
    (lock : Bool) : SameTasks m (m.writeLock pointer lock) := by
  unfold writeLock
  split
  · split <;> exact ⟨rfl, rfl, rfl⟩
  · exact ⟨rfl, rfl, rfl⟩

end ConcurrencyManager

namespace Concurrency

variable {platform : Platform Fn} {fuel : Nat} {s s' : Concurrency Fn Ref}

/-- The requests that a call makes. -/
def Op.requests : Op Fn Ref → List (TaskRequest Fn)
  | .enqueueTask isJoin isPermanent isReoccuring function parameters =>
    [{ isJoin, isPermanent, isReoccuring, function, parameters }]
  | _ => []

/-- The call sorts the queue. -/
def Op.reorders : Op Fn Ref → Bool
  | .forwardTasks _ | .forceTasks _ => true
  | _ => false

/-- One operation, with the tasks that it starts. -/
def stepStarts (platform : Platform Fn) (fuel : Nat) (s : Concurrency Fn Ref) :
    Op Fn Ref → Except Fault (List (ThreadTask Fn) × Concurrency Fn Ref)
  | .runTask ignoreAllocation =>
    (s.runTask platform fuel ignoreAllocation).map fun (t, s) => (t.toList, s)
  | .forceTasks taskIds => s.forceTasksLog platform fuel taskIds
  | .setAllTasks => s.setAllTasksLog platform fuel
  | op => (s.step platform fuel op).map fun (_, s) => ([], s)

/-- The tasks are started by the operation itself. -/
theorem step_eq_stepStarts (platform : Platform Fn) (fuel : Nat) (s : Concurrency Fn Ref)
    (op : Op Fn Ref) :
    (s.step platform (fuel + 1) op).map Prod.snd =
      (s.stepStarts platform (fuel + 1) op).map Prod.snd := by
  have hother : ∀ x : Except Fault (Output Fn × Concurrency Fn Ref),
      x.map Prod.snd = (x.map fun r => (([] : List (ThreadTask Fn)), r.2)).map Prod.snd := by
    intro x
    cases x <;> rfl
  cases op with
  | runTask ignoreAllocation =>
    simp only [step, stepStarts]
    cases s.runTask platform (fuel + 1) ignoreAllocation <;> rfl
  | forceTasks taskIds =>
    simp only [step, stepStarts, forceTasks_eq_log]
    cases s.forceTasksLog platform (fuel + 1) taskIds <;> rfl
  | setAllTasks =>
    simp only [step, stepStarts, setAllTasks_eq_log]
    cases s.setAllTasksLog platform (fuel + 1) <;> rfl
  | _ => exact hother _

/-! ## The exit flags -/

/-- A call of `runTask` leaves the flags as they are. -/
theorem exitsTogether_runTask {ignoreAllocation : Bool} {x : Option (ThreadTask Fn)}
    (hs : s.manager.ExitsTogether)
    (h : s.runTask platform fuel ignoreAllocation = .ok (x, s')) : s'.manager.ExitsTogether := by
  obtain ⟨t, -, -, -, table, stale, rfl⟩ := runTask_counters h
  exact hs.congr rfl rfl

/-- What a run starts is neither permanent nor reoccuring. -/
theorem isPlain_of_runTask {ignoreAllocation : Bool} {x : Option (ThreadTask Fn)}
    (hs : s.manager.ExitsTogether)
    (h : s.runTask platform fuel ignoreAllocation = .ok (x, s')) :
    ∃ t, x = some t ∧ t.isPlain = true ∧ s.manager.taskQueue = s'.manager.taskQueue ++ [t] := by
  obtain ⟨t, hstarts, hdestroyable⟩ := runTask_returns_iff.mp ⟨_, h⟩
  obtain ⟨u, rfl, hqueue, -⟩ := runTask_leaves h
  obtain rfl : t = u := by
    have hlast := hstarts.getLast
    rw [hqueue, List.getLast?_concat] at hlast
    exact (Option.some.inj hlast).symm
  refine ⟨t, rfl, ?_, hqueue⟩
  -- neither flag is set, and the other tasks could not be destroyed
  have hscheduled := hstarts.scheduledExit
  have hpermanent : s.manager.permanentExitSet = false := by
    by_contra hset
    rw [Bool.not_eq_false] at hset
    rw [(hs hset).1] at hscheduled
    cases hscheduled
  have hflag : s.manager.exitFlag t.isPermanent = false := by
    unfold ConcurrencyManager.exitFlag
    rw [hscheduled, hpermanent, ite_self]
  unfold ThreadTask.isPlain
  cases hp : t.isPermanent with
  | true =>
    rw [hdestroyable (.inl hp)] at hflag
    cases hflag
  | false =>
    cases hr : t.isReoccuring with
    | true =>
      rw [hdestroyable (.inr hr)] at hflag
      cases hflag
    | false => rfl

/-- A number of calls of `runTask` start plain tasks. -/
theorem isPlain_of_startTasks {ignoreAllocation : Bool} {times : Nat}
    {started : List (ThreadTask Fn)} (hs : s.manager.ExitsTogether)
    (h : startTasks platform fuel ignoreAllocation times s = .ok (started, s')) :
    (∀ t ∈ started, t.isPlain = true) ∧ s'.manager.ExitsTogether := by
  induction times generalizing s started with
  | zero =>
    cases h
    exact ⟨fun _ h => absurd h List.not_mem_nil, hs⟩
  | succ times ih =>
    obtain ⟨⟨first, s₁⟩, hfirst, h⟩ := Except.bind_eq_ok_iff.mp h
    obtain ⟨⟨rest, s₂⟩, hrest, heq⟩ := Except.bind_eq_ok_iff.mp h
    cases heq
    obtain ⟨t, rfl, hplain, -⟩ := isPlain_of_runTask hs hfirst
    obtain ⟨hall, hs₂⟩ := ih (exitsTogether_runTask hs hfirst) hrest
    refine ⟨fun u hu => ?_, hs₂⟩
    rcases List.mem_cons.mp hu with rfl | hu
    · exact hplain
    · exact hall u hu

/-! ## One call -/

/-- What a call does to the tasks: one is queued, or some are started from the back of the
    queue, which may have been reordered before. -/
inductive Moves (s : Concurrency Fn Ref) (op : Op Fn Ref) (started : List (ThreadTask Fn))
    (s' : Concurrency Fn Ref) : Prop
  | queued {t : ThreadTask Fn} (hop : op.requests = [t.request]) (hstarted : started = [])
      (hqueue : s'.manager.taskQueue =
        if t.isPermanent then s.manager.taskQueue ++ [t] else t :: s.manager.taskQueue)
  | starts (hop : op.requests = [])
      (hperm : (s'.manager.taskQueue ++ started.reverse).Perm s.manager.taskQueue)
      (hqueue : op.reorders = false →
        s'.manager.taskQueue ++ started.reverse = s.manager.taskQueue)
      (hplain : ∀ t ∈ started, t.isPlain = true)

/-- A call that leaves the queue alone. -/
theorem Moves.of_eq {op : Op Fn Ref} (hop : op.requests = [])
    (hqueue : s'.manager.taskQueue = s.manager.taskQueue) : Moves s op [] s' := by
  refine .starts hop ?_ (fun _ => ?_) fun _ h => absurd h List.not_mem_nil
  · rw [List.reverse_nil, List.append_nil, hqueue]
  · rw [List.reverse_nil, List.append_nil, hqueue]

/-- A call that has to do with variables only. -/
theorem moves_of_sameTasks {op : Op Fn Ref} {o : Output Fn}
    {f : ConcurrencyManager Fn Ref → Except Fault (Bool × ConcurrencyManager Fn Ref)}
    (hop : op.requests = []) (hs : s.manager.ExitsTogether)
    (hf : ∀ b m, f s.manager = .ok (b, m) → s.manager.SameTasks m)
    (h : s.onManager (fun m => (f m).map fun (r, m) => (Output.result r, m)) = .ok (o, s')) :
    Moves s op [] s' ∧ s'.manager.ExitsTogether := by
  obtain ⟨⟨b, m⟩, hm, heq⟩ := Except.map_eq_ok_iff.mp (onManager_eq_ok h).1
  cases heq
  obtain ⟨hqueue, hflag, hran⟩ := hf b _ hm
  exact ⟨.of_eq hop hqueue, hs.congr hflag hran⟩

/-- A call that sets flags, after the launch. -/
theorem moves_of_flags {op : Op Fn Ref} {o : Output Fn}
    {f : ConcurrencyManager Fn Ref → Except Fault (ConcurrencyManager Fn Ref)}
    (hop : op.requests = [])
    (hf : ∀ m, f s.manager = .ok m → m.taskQueue = s.manager.taskQueue ∧ m.ExitsTogether)
    (h : s.onManager (fun m => (f m).map fun m => (Output.done, m)) = .ok (o, s')) :
    Moves s op [] s' ∧ s'.manager.ExitsTogether := by
  obtain ⟨m, hm, heq⟩ := Except.map_eq_ok_iff.mp (onManager_eq_ok h).1
  cases heq
  obtain ⟨hqueue, hs'⟩ := hf _ hm
  exact ⟨.of_eq hop hqueue, hs'⟩

/-- What `forceTasks` starts comes from the queue that it has sorted. -/
theorem moves_forceTasks {taskIds : List Int16} {started : List (ThreadTask Fn)}
    (hs : s.manager.ExitsTogether)
    (h : s.forceTasksLog platform fuel taskIds = .ok (started, s')) :
    Moves s (.forceTasks taskIds) started s' ∧ s'.manager.ExitsTogether := by
  unfold forceTasksLog at h
  split at h
  · cases h
  · obtain ⟨m, hm, hstart⟩ := Except.bind_eq_ok_iff.mp h
    obtain rfl := ConcurrencyManager.forwardTasks_eq_ok hm
    obtain ⟨-, hqueue⟩ := startTasks_eq_ok hstart
    have hsorted : ConcurrencyManager.ExitsTogether { s.manager with
        taskQueue := platform.listSort (forwardComparison taskIds) s.manager.taskQueue } :=
      hs.congr rfl rfl
    obtain ⟨hplain, hs'⟩ := isPlain_of_startTasks (s := { s with manager := _ }) hsorted hstart
    refine ⟨.starts rfl ?_ nofun hplain, hs'⟩
    rw [← hqueue]
    exact platform.listSort_perm _ _

/-- What a call does to the queue, and what it starts. -/
theorem stepStarts_cases {op : Op Fn Ref} {started : List (ThreadTask Fn)}
    (hs : s.manager.ExitsTogether)
    (h : s.stepStarts platform fuel op = .ok (started, s')) :
    Moves s op started s' ∧ s'.manager.ExitsTogether := by
  -- the operations that start no task
  have hother : ∀ x : Except Fault (Output Fn × Concurrency Fn Ref),
      (x.map fun r => (([] : List (ThreadTask Fn)), r.2)) = .ok (started, s') →
      started = [] ∧ ∃ o, x = .ok (o, s') := by
    intro x hx
    obtain ⟨⟨o, s₁⟩, hok, heq⟩ := Except.map_eq_ok_iff.mp hx
    cases heq
    exact ⟨rfl, o, hok⟩
  cases op with
  | enlistCommonVariable reference lookup =>
    obtain ⟨rfl, o, hok⟩ := hother _ h
    unfold step at hok
    exact moves_of_sameTasks rfl hs
      (fun _ _ hm => ConcurrencyManager.sameTasks_enlistCommonVariable hm) hok
  | removeCommonVariable lookup =>
    obtain ⟨rfl, o, hok⟩ := hother _ h
    unfold step at hok
    exact moves_of_sameTasks rfl hs
      (fun _ _ hm => ConcurrencyManager.sameTasks_removeCommonVariable hm) hok
  -- whoever has the pointer writes the lock; the queue is not asked
  | writeLock pointer lock =>
    obtain ⟨rfl, o, hok⟩ := hother (s.step platform fuel (.writeLock pointer lock)) h
    cases hok
    obtain ⟨hqueue, hflag, hran⟩ :=
      ConcurrencyManager.sameTasks_writeLock s.manager pointer lock
    exact ⟨.of_eq rfl hqueue, hs.congr hflag hran⟩
  | enqueueTask j p r f parameters =>
    obtain ⟨rfl, o, hok⟩ := hother _ h
    obtain ⟨s₁, hok, heq⟩ := Except.map_eq_ok_iff.mp hok
    cases heq
    obtain ⟨t, hmade, hqueue⟩ := enqueueTask_queue hok
    obtain ⟨rfl, rfl, rfl, rfl, rfl⟩ := hmade
    -- the ledger notes the request, and the queue has the task that was made of it
    refine ⟨.queued rfl rfl hqueue, ?_⟩
    obtain ⟨u, -, -, table, stale, rfl⟩ := enqueueTask_counters hok
    exact hs.congr rfl rfl
  | forwardTasks taskIds =>
    obtain ⟨rfl, o, hok⟩ := hother _ h
    unfold step at hok
    obtain ⟨m, hm, heq⟩ := Except.map_eq_ok_iff.mp (onManager_eq_ok hok).1
    cases heq
    have hmanager := ConcurrencyManager.forwardTasks_eq_ok hm
    -- the queue has the same tasks in another order, and none is started
    refine ⟨.starts rfl ?_ nofun fun _ h => absurd h List.not_mem_nil, ?_⟩
    · rw [List.reverse_nil, List.append_nil, hmanager]
      exact platform.listSort_perm _ _
    · exact hs.congr (by rw [hmanager]; rfl) (by rw [hmanager])
  | forceTasks taskIds => exact moves_forceTasks hs h
  | runTask ignoreAllocation =>
    obtain ⟨⟨x, s₁⟩, hrun, heq⟩ := Except.map_eq_ok_iff.mp h
    cases heq
    obtain ⟨t, rfl, hplain, hqueue⟩ := isPlain_of_runTask hs hrun
    -- the task at the back, which a call that returns has found to be plain
    refine ⟨.starts rfl ?_ (fun _ => hqueue.symm) ?_, exitsTogether_runTask hs hrun⟩
    · rw [hqueue]
      rfl
    · intro u hu
      rw [List.mem_singleton.mp hu]
      exact hplain
  | setTasks =>
    obtain ⟨rfl, o, hok⟩ := hother _ h
    unfold step at hok
    refine moves_of_flags rfl (fun m hm => ?_) hok
    obtain ⟨hran, rfl⟩ := ConcurrencyManager.setTasks_eq_ok hm
    -- only before `endAllTasks`, and so the permanent flag is not set
    exact ⟨rfl, hs.of_ran hran rfl⟩
  | endTasks =>
    obtain ⟨rfl, o, hok⟩ := hother _ h
    unfold step at hok
    refine moves_of_flags rfl (fun m hm => ?_) hok
    obtain ⟨hran, rfl⟩ := ConcurrencyManager.endTasks_eq_ok hm
    exact ⟨rfl, hs.of_ran hran rfl⟩
  | setAllTasks =>
    obtain ⟨⟨tasks, s₁⟩, hstart, heq⟩ := Except.bind_eq_ok_iff.mp h
    cases heq
    -- the whole queue is started, from the back to the front
    obtain ⟨-, hqueue⟩ := startTasks_eq_ok hstart
    obtain ⟨hplain, -⟩ := isPlain_of_startTasks hs hstart
    refine ⟨.starts rfl ?_ (fun _ => hqueue.symm) hplain, nofun⟩
    rw [hqueue]
  | endAllTasks =>
    obtain ⟨rfl, o, hok⟩ := hother _ h
    unfold step at hok
    refine moves_of_flags rfl (fun m hm => ?_) hok
    obtain ⟨-, rfl⟩ := ConcurrencyManager.endAllTasks_eq_ok hm
    -- both flags are set together, and the launch is taken back
    exact ⟨rfl, fun _ => ⟨rfl, rfl⟩⟩

/-! ## Runs -/

/-- What a manager was asked for so far, and what it has started, in order. -/
structure Ledger (Fn : Type) where
  enqueued : List (TaskRequest Fn) := []
  started : List (ThreadTask Fn) := []

/-- The ledger after a call that returned. -/
def Ledger.note (op : Op Fn Ref) (started : List (ThreadTask Fn)) (l : Ledger Fn) : Ledger Fn where
  enqueued := l.enqueued ++ op.requests
  started := l.started ++ started

/-- The states of a run, each with the ledger so far. -/
abbrev ledgerStep (platform : Platform Fn) (fuel : Nat) :
    Concurrency Fn Ref × Ledger Fn → Op Fn Ref →
      Except Fault (List (ThreadTask Fn) × (Concurrency Fn Ref × Ledger Fn)) :=
  StepRun.recorded (stepStarts platform fuel) Ledger.note

/-- Every task is waiting or was started, and all that were started are plain. -/
structure Conserved (s : Concurrency Fn Ref) (l : Ledger Fn) : Prop where
  perm : ((l.started ++ s.manager.taskQueue).map ThreadTask.request).Perm l.enqueued
  plain : ∀ t ∈ l.started, t.isPlain = true

/-- The scheduled tasks, the started ones first and then those that wait, the next one first. -/
def scheduledInOrder (s : Concurrency Fn Ref) (l : Ledger Fn) : List (TaskRequest Fn) :=
  ((l.started ++ s.manager.taskQueue.reverse).filter fun t => !t.isPermanent).map
    ThreadTask.request

/-- A call neither loses a task nor starts one twice. -/
theorem Conserved.moves {l : Ledger Fn} {op : Op Fn Ref} {started : List (ThreadTask Fn)}
    (hl : Conserved s l) (h : Moves s op started s') : Conserved s' (l.note op started) := by
  cases h with
  | @queued t hop hstarted hqueue =>
    rw [Ledger.note, hop, hstarted, List.append_nil]
    refine ⟨?_, hl.plain⟩
    -- at whichever end the task is, the queue has it once
    have hperm : s'.manager.taskQueue.Perm (s.manager.taskQueue ++ [t]) := by
      rw [hqueue]
      split
      · exact List.Perm.refl _
      · exact (List.perm_append_singleton t _).symm
    have hall := (hperm.append_left l.started).map ThreadTask.request
    rw [← List.append_assoc] at hall
    refine hall.trans ?_
    rw [List.map_append]
    exact hl.perm.append_right _
  | starts hop hperm hqueue hplain =>
    rw [Ledger.note, hop, List.append_nil]
    constructor
    · -- what was started has left the queue, from the back
      have hall : (l.started ++ started ++ s'.manager.taskQueue).Perm
          (l.started ++ s.manager.taskQueue) := by
        rw [List.append_assoc]
        refine List.Perm.append_left _ (List.Perm.trans ?_ hperm)
        exact List.perm_append_comm.trans ((List.reverse_perm started).symm.append_left _)
      exact (hall.map _).trans hl.perm
    · intro t ht
      rcases List.mem_append.mp ht with hold | hnew
      · exact hl.plain t hold
      · exact hplain t hnew

/-- A call that does not sort the queue keeps the order of the scheduled tasks. -/
theorem scheduledInOrder_moves {l : Ledger Fn} {op : Op Fn Ref} {started : List (ThreadTask Fn)}
    (hop : op.reorders = false) (h : Moves s op started s') :
    scheduledInOrder s' (l.note op started) =
      scheduledInOrder s l ++ op.requests.filter fun r => !r.isPermanent := by
  cases h with
  | @queued t hrequests hstarted hqueue =>
    rw [hrequests]
    simp only [scheduledInOrder, Ledger.note, hstarted, List.append_nil, hqueue]
    cases hp : t.isPermanent with
    | true =>
      simp [hp, ThreadTask.request]
    | false =>
      simp [hp, ThreadTask.request]
  | starts hrequests hperm hqueue hplain =>
    rw [hrequests, List.filter_nil, List.append_nil]
    unfold scheduledInOrder Ledger.note
    rw [← hqueue hop, List.reverse_append, List.reverse_reverse, ← List.append_assoc]

/-- A new manager has no exit flag set. -/
theorem exitsTogether_construct (platform : Platform Fn) :
    (construct platform {} : Concurrency Fn Ref).manager.ExitsTogether := by
  intro hset
  cases hset

/-- A call keeps the flags in step, and notes what it does. -/
theorem ledgerStep_moves {r r' : Concurrency Fn Ref × Ledger Fn} {op : Op Fn Ref}
    {started : List (ThreadTask Fn)} (hr : r.1.manager.ExitsTogether)
    (h : ledgerStep platform fuel r op = .ok (started, r')) :
    Moves r.1 op started r'.1 ∧ r'.2 = r.2.note op started ∧ r'.1.manager.ExitsTogether := by
  obtain ⟨hstep, hnote⟩ := StepRun.recorded_eq_ok h
  obtain ⟨hmoves, hexits⟩ := stepStarts_cases hr hstep
  exact ⟨hmoves, hnote, hexits⟩

/-- Whatever is asked of a manager, after any calls that return every task that was ever enqueued
    is waiting or was started once, and none of the calls has started a permanent or reoccuring
    task. -/
theorem tasks_conserved (platform : Platform Fn) (fuel : Nat) (ops : List (Op Fn Ref)) :
    let r := StepRun.final (ledgerStep platform fuel) (construct platform {}, {}) ops
    Conserved r.1 r.2 := by
  intro r
  have hreach : StepRun.Reachable (ledgerStep platform fuel) (construct platform {}, {}) r :=
    StepRun.Reachable.init.final ops
  refine (hreach.invariant (I := fun r => Conserved r.1 r.2 ∧ r.1.manager.ExitsTogether)
    ⟨⟨List.Perm.refl _, fun _ h => absurd h List.not_mem_nil⟩, exitsTogether_construct platform⟩
    ?_).1
  intro r op started r' hr hok
  obtain ⟨hmoves, hnote, hexits⟩ := ledgerStep_moves hr.2 hok
  rw [hnote]
  exact ⟨hr.1.moves hmoves, hexits⟩

/-- As long as no tasks are forwarded, the scheduled tasks are started in the order in which
    they were enqueued. -/
theorem scheduled_in_order (platform : Platform Fn) (fuel : Nat) {ops : List (Op Fn Ref)}
    (hops : ∀ op ∈ ops, op.reorders = false) :
    let r := StepRun.final (ledgerStep platform fuel) (construct platform {}, {}) ops
    scheduledInOrder r.1 r.2 = r.2.enqueued.filter fun q => !q.isPermanent := by
  intro r
  have hkeep : ∀ (r : Concurrency Fn Ref × Ledger Fn) op started r',
      (scheduledInOrder r.1 r.2 = (r.2.enqueued.filter fun q => !q.isPermanent) ∧
        r.1.manager.ExitsTogether) → op.reorders = false →
      ledgerStep platform fuel r op = .ok (started, r') →
      scheduledInOrder r'.1 r'.2 = (r'.2.enqueued.filter fun q => !q.isPermanent) ∧
        r'.1.manager.ExitsTogether := by
    intro r op started r' hr hop hok
    obtain ⟨hmoves, hnote, hexits⟩ := ledgerStep_moves hr.2 hok
    refine ⟨?_, hexits⟩
    rw [hnote, scheduledInOrder_moves hop hmoves, hr.1, Ledger.note, List.filter_append]
  have hinit : scheduledInOrder (construct platform {} : Concurrency Fn Ref) {} = [] ∧
      (construct platform {} : Concurrency Fn Ref).manager.ExitsTogether :=
    ⟨rfl, exitsTogether_construct platform⟩
  have hall := StepRun.forall_visited_of_ops hkeep (s := (construct platform {}, {})) hinit hops
  exact (hall r (StepRun.final_mem_visited _ _)).1

/-- A launch of one task, then two more tasks of which one is started. -/
def launchAndRun : List (Op Unit Unit) :=
  [.enqueueTask false false false () [], .setAllTasks, .enqueueTask true false false () [],
    .enqueueTask false false false () [], .runTask false]

theorem scheduled_in_order_launchAndRun :
    let r := StepRun.final (ledgerStep .quadCore 1) (construct .quadCore {}, {}) launchAndRun
    scheduledInOrder r.1 r.2 = r.2.enqueued.filter fun q => !q.isPermanent :=
  scheduled_in_order .quadCore 1 (by decide)

end Concurrency

end NetworkedFS
