import NetworkedFS.ForStd.StepRun
import NetworkedFS.Spec.TaskLifetime

/-!
# The number of running tasks

`concurrency_running_scheduled_tasks` goes up when `runTask` starts a task, and down in the
destructor of `concurrency_thread_task`.  No destructor runs at the end of a task: one
runs for the local original in `enqueueTask`, and one for the popped copy in the same
`runTask` that started the task.  So the counter says how many tasks were enqueued, as a
negative number, and a thread that finishes does not change it.

## Key results

- `counter_eq_neg_enqueued`: what the counter counts;
- `countsRunning_iff_no_enqueue`: it counts the running tasks only while none was enqueued.
-/

namespace NetworkedFS

/-- A manager, and the tasks that it started in threads that have not finished. -/
structure ConcurrencyThreads (Fn Ref : Type) where
  concurrency : Concurrency Fn Ref
  running : List (ThreadTask Fn)

namespace ConcurrencyThreads

variable {Fn Ref : Type}

/-- The calls on a manager, and the end of a thread that it started. -/
inductive Op (Fn : Type) where
  | enqueueTask (isJoin isPermanent isReoccuring : Bool) (function : Fn)
      (parameters : List String)
  | runTask (ignoreAllocation : Bool)
  | finish (position : Nat)

/-- The threads that run after a call that started a task: `join` waits for the new one. -/
def launch (running : List (ThreadTask Fn)) : Option (ThreadTask Fn) → List (ThreadTask Fn)
  | some task => if task.isJoin then running else task :: running
  | none => running

/-- One call, or the end of one thread. -/
def step (platform : Platform Fn) (fuel : Nat) (s : ConcurrencyThreads Fn Ref) :
    Op Fn → Except Fault (Option (ThreadTask Fn) × ConcurrencyThreads Fn Ref)
  | .enqueueTask j p r f parameters =>
    (s.concurrency.enqueueTask fuel j p r f parameters).map fun concurrency =>
      (none, { s with concurrency })
  | .runTask ignoreAllocation =>
    (s.concurrency.runTask platform fuel ignoreAllocation).map fun (task, concurrency) =>
      (task, { concurrency, running := launch s.running task })
  | .finish position => .ok (none, { s with running := s.running.eraseIdx position })

def construct (platform : Platform Fn) : ConcurrencyThreads Fn Ref where
  concurrency := Concurrency.construct platform {}
  running := []

/-- The counter, `concurrency_running_scheduled_tasks`. -/
def counter (s : ConcurrencyThreads Fn Ref) : Int16 := s.concurrency.statics.runningScheduledTasks

/-- The counter is the number of tasks that run. -/
def CountsRunning (s : ConcurrencyThreads Fn Ref) : Prop := s.counter.toInt = s.running.length

instance (s : ConcurrencyThreads Fn Ref) : Decidable s.CountsRunning :=
  inferInstanceAs (Decidable (_ = _))

/-- A `runTask(false)` that starts a task leaves the running tasks below the number of
    processors that it computes. -/
def RespectsCap (platform : Platform Fn) (fuel : Nat) (s : ConcurrencyThreads Fn Ref) (op : Op Fn) :
    Prop :=
  op = .runTask false → ∀ task s', s.step platform fuel op = .ok (some task, s') →
    (s.running.length : Int) < s'.concurrency.manager.cpuCount.toInt

/-- The call is an `enqueueTask`. -/
def Op.isEnqueue : Op Fn → Bool
  | .enqueueTask .. => true
  | _ => false

/-! ## One step -/

/-- Every task that is enqueued counts down, and nothing else moves the counter. -/
theorem counter_step {platform : Platform Fn} {fuel : Nat} {s s' : ConcurrencyThreads Fn Ref}
    {op : Op Fn} {x : Option (ThreadTask Fn)} (h : s.step platform fuel op = .ok (x, s')) :
    s'.counter = if op.isEnqueue then s.counter - 1 else s.counter := by
  cases op with
  | enqueueTask j p r f parameters =>
    obtain ⟨c, hok, heq⟩ := Except.map_eq_ok_iff.mp h
    cases heq
    obtain ⟨t, -, -, table, stale, rfl⟩ := Concurrency.enqueueTask_counters hok
    rfl
  | runTask ignoreAllocation =>
    obtain ⟨⟨y, c⟩, hok, heq⟩ := Except.map_eq_ok_iff.mp h
    cases heq
    obtain ⟨t, -, -, -, table, stale, rfl⟩ := Concurrency.runTask_counters hok
    -- up for the thread, and down for the popped copy
    exact Int16.add_sub_cancel _ 1
  | finish position =>
    cases h
    rfl

/-- With an empty queue `runTask` does not return: its report fails the assertion. -/
theorem runTask_ne_ok {platform : Platform Fn} {fuel : Nat} {s : ConcurrencyThreads Fn Ref}
    (hqueue : s.concurrency.manager.taskQueue = []) (ignoreAllocation : Bool)
    (r : Option (ThreadTask Fn) × ConcurrencyThreads Fn Ref) :
    s.step platform fuel (.runTask ignoreAllocation) ≠ .ok r := by
  intro h
  obtain ⟨⟨y, c⟩, hok, -⟩ := Except.map_eq_ok_iff.mp h
  obtain ⟨t, -, hlast, -⟩ := Concurrency.runTask_counters hok
  rw [hqueue] at hlast
  cases hlast

/-! ## Runs -/

/-- The counter is the number of calls of `enqueueTask` that returned, negated and wrapped
    around. -/
theorem counter_eq_neg_enqueued (platform : Platform Fn) (fuel : Nat)
    (s : ConcurrencyThreads Fn Ref) (ops : List (Op Fn)) :
    (StepRun.final (step platform fuel) s ops).counter = s.counter -
      Int16.ofNat ((StepRun.calls (step platform fuel) s ops).countP fun c =>
        c.2.isEnqueue && (c.1.step platform fuel c.2).isOk) := by
  -- induction on the run, counting the first call apart
  induction ops generalizing s with
  | nil => exact (Int16.sub_zero _).symm
  | cons op ops ih =>
    simp only [StepRun.final, StepRun.calls, List.countP_cons]
    cases hok : s.step platform fuel op with
    | error e => simp [Except.isOk, Except.toBool]
    | ok r =>
      obtain ⟨x, s'⟩ := r
      rw [ih s', counter_step hok]
      cases op.isEnqueue with
      | false => simp [Except.isOk, Except.toBool]
      | true =>
        simp only [if_true, Except.isOk, Except.toBool, Bool.and_self, Int16.ofNat_add]
        rw [Int16.sub_sub, Int16.add_comm]
        rfl

/-- Nothing is queued, running or counted. -/
structure Idle (s : ConcurrencyThreads Fn Ref) : Prop where
  taskQueue : s.concurrency.manager.taskQueue = []
  running : s.running = []
  counter : s.counter = 0

/-- A call that is not an `enqueueTask` leaves an idle manager idle. -/
theorem Idle.step {platform : Platform Fn} {fuel : Nat} {s s' : ConcurrencyThreads Fn Ref}
    (hs : s.Idle) {op : Op Fn} {x : Option (ThreadTask Fn)} (hop : op.isEnqueue = false)
    (h : s.step platform fuel op = .ok (x, s')) : s'.Idle := by
  have hcounter := counter_step h
  rw [hop, hs.counter] at hcounter
  cases op with
  | enqueueTask j p r f parameters => cases hop
  | runTask ignoreAllocation => exact absurd h (runTask_ne_ok hs.taskQueue ignoreAllocation _)
  | finish position =>
    cases h
    refine ⟨hs.taskQueue, ?_, hcounter⟩
    rw [hs.running, List.eraseIdx_nil]

/-- Nothing is counted and nothing runs. -/
theorem Idle.countsRunning {s : ConcurrencyThreads Fn Ref} (hs : s.Idle) : s.CountsRunning := by
  rw [CountsRunning, hs.counter, hs.running]
  rfl

/-- In an idle manager, a call keeps the counter right and respects the cap exactly when
    it is not an `enqueueTask` that returns. -/
theorem Idle.law_iff {platform : Platform Fn} {fuel : Nat} {s : ConcurrencyThreads Fn Ref}
    (hs : s.Idle) (op : Op Fn) :
    ((∀ x s', s.step platform fuel op = .ok (x, s') → s'.CountsRunning) ∧
      s.RespectsCap platform fuel op) ↔
    ∀ x s', s.step platform fuel op = .ok (x, s') → op.isEnqueue = false := by
  constructor
  · rintro ⟨hlaw, -⟩ x s' hok
    by_contra henqueue
    rw [Bool.not_eq_false] at henqueue
    -- the new task does not run yet, but the counter has gone below zero
    have hcounts := hlaw x s' hok
    have hcounter := counter_step hok
    rw [henqueue, if_pos rfl, hs.counter] at hcounter
    rw [CountsRunning, hcounter] at hcounts
    have hneg : ((0 : Int16) - 1).toInt = -1 := by decide
    omega
  · intro hcond
    refine ⟨fun x s' hok => (hs.step (hcond x s' hok) hok).countsRunning, ?_⟩
    rintro rfl task s' hok
    exact absurd hok (runTask_ne_ok hs.taskQueue false _)

/-- A fresh manager is idle. -/
theorem idle_construct (platform : Platform Fn) :
    (construct platform : ConcurrencyThreads Fn Ref).Idle := ⟨rfl, rfl, rfl⟩

/-- In a history of a fresh manager the counter is the number of running tasks throughout,
    and the cap is respected, exactly when no call of `enqueueTask` returns. -/
theorem countsRunning_iff_no_enqueue (platform : Platform Fn) (fuel : Nat) (ops : List (Op Fn)) :
    ((∀ s ∈ StepRun.visited (step platform fuel) (construct platform : ConcurrencyThreads Fn Ref)
        ops, s.CountsRunning) ∧
      ∀ c ∈ StepRun.calls (step platform fuel) (construct platform : ConcurrencyThreads Fn Ref)
        ops, c.1.RespectsCap platform fuel c.2) ↔
    ∀ c ∈ StepRun.calls (step platform fuel) (construct platform : ConcurrencyThreads Fn Ref) ops,
      ∀ x s', c.1.step platform fuel c.2 = .ok (x, s') → c.2.isEnqueue = false := by
  rw [StepRun.forall_visited_iff, and_iff_right (idle_construct platform).countsRunning,
    ← forall₂_and]
  exact StepRun.forall_calls_iff (I := Idle) (fun s op hs => hs.law_iff op)
    (fun s op x s' hs hcond hok => hs.step (hcond x s' hok) hok) (idle_construct platform) ops

/-- One queued task makes the counter negative, and then more tasks start than there are
    processors for. -/
theorem enqueued_task_counts_down :
    ¬ ∀ ops : List (Op Unit),
      (∀ s ∈ StepRun.visited (step .quadCore 1)
        (construct .quadCore : ConcurrencyThreads Unit Unit) ops, s.CountsRunning) ∧
      ∀ c ∈ StepRun.calls (step .quadCore 1)
        (construct .quadCore : ConcurrencyThreads Unit Unit) ops, c.1.RespectsCap .quadCore 1 c.2 := by
  intro hall
  let ops : List (Op Unit) := [.enqueueTask false false false () []]
  have hcounts := (hall ops).1 _ (StepRun.final_mem_visited _ ops)
  exact absurd hcounts (by decide)

/-- Four tasks run at once on a machine that has three processors left for them. -/
example : (StepRun.final (step .quadCore 1) (construct .quadCore : ConcurrencyThreads Unit Unit)
    (List.replicate 4 (.enqueueTask false false false () []) ++
      List.replicate 4 (.runTask false))).running.length = 4 := by decide

end ConcurrencyThreads

end NetworkedFS
