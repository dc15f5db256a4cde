import NetworkedFS.Spec.TaskRequeue

/-!
# The number of processors

`setResources` subtracts the permanent tasks from the hardware threads and adds up to two, so
that the difference may be negative by one.  Below that the number of processors is not
positive, and `runTask` finds none for a task even if no other is running.

`runTask` subtracts the number of running tasks once more.  What it reads is not that: the
counter goes down by one with each task that is enqueued, and is the same before and after each
task that is run.  So the difference grows with every task, until it leaves the range of a
`short`.

## Key results

- `toInt_cpuCount`: the number in terms of the two counts;
- `leavesProcessor_iff`: when one processor is left, and a task finds it.
-/

namespace NetworkedFS

namespace ConcurrencyManager

variable {Fn Ref : Type}

/-- The difference of the two counts survives the conversions. -/
theorem toInt_difference {hardware : UInt32} {permanent : Int16}
    (hhardware : hardware.toNat ≤ 32767) (hpermanent : 1 ≤ permanent.toInt) :
    (hardware - permanent.toInt32.toUInt32).toUInt16.toInt16.toInt =
      hardware.toNat - permanent.toInt := by
  have hnonneg : 0 ≤ permanent.toInt32 := by
    rw [Int32.le_iff_toInt_le, Int16.toInt_toInt32]
    show 0 ≤ permanent.toInt
    omega
  have hunsigned : permanent.toInt32.toUInt32.toNat = permanent.toInt.toNat := by
    rw [Int32.toNat_toUInt32_of_le hnonneg]
    exact congrArg Int.toNat (Int16.toInt_toInt32 permanent)
  have hlt := permanent.toInt_lt
  -- a `short` is its 16 bits, read with a sign
  rw [← Int16.toInt_toBitVec]
  show (hardware - permanent.toInt32.toUInt32).toUInt16.toBitVec.toInt = _
  rw [BitVec.toInt_eq_toNat_bmod]
  show ((hardware - permanent.toInt32.toUInt32).toUInt16.toNat : Int).bmod (2 ^ 16) = _
  rw [UInt32.toNat_toUInt16, UInt32.toNat_sub, hunsigned, Int.bmod_def]
  omega

/-- A difference that is not positive is raised by one, and by two if it is negative. -/
theorem toInt_cpuCount {platform : Platform Fn} {statics : ConcurrencyStatics}
    (hhardware : platform.hardwareConcurrency.toNat ≤ 32767)
    (hpermanent : 1 ≤ statics.permanentThreadCount.toInt) (m : ConcurrencyManager Fn Ref) :
    let difference := platform.hardwareConcurrency.toNat - statics.permanentThreadCount.toInt
    (m.setResources platform statics).cpuCount.toInt =
      difference + ((if difference ≤ 0 then 1 else 0) + if difference < 0 then 1 else 0) := by
  intro difference
  have hdifference := toInt_difference hhardware hpermanent
  have hlt := statics.permanentThreadCount.toInt_lt
  have hzero : (0 : Int16).toInt = 0 := rfl
  have hone : (1 : Int16).toInt = 1 := rfl
  simp only [setResources, Int16.toInt_add, Int16.le_iff_toInt_le, Int16.lt_iff_toInt_lt,
    hdifference, hzero]
  split
  · split
    · rw [hone, Int.bmod_def, Int.bmod_def]
      omega
    · rw [hone, hzero, Int.bmod_def, Int.bmod_def]
      omega
  · split
    · omega
    · rw [hzero, Int.bmod_def, Int.bmod_def]
      omega

/-- A processor is left exactly if the difference is not below -1. -/
theorem one_le_cpuCount_iff {platform : Platform Fn} {statics : ConcurrencyStatics}
    (hhardware : platform.hardwareConcurrency.toNat ≤ 32767)
    (hpermanent : 1 ≤ statics.permanentThreadCount.toInt) (m : ConcurrencyManager Fn Ref) :
    1 ≤ (m.setResources platform statics).cpuCount ↔
      statics.permanentThreadCount.toInt ≤ platform.hardwareConcurrency.toNat + 1 := by
  have hone : (1 : Int16).toInt = 1 := rfl
  rw [Int16.le_iff_toInt_le, hone, toInt_cpuCount hhardware hpermanent m]
  split
  · split
    · omega
    · omega
  · split
    · omega
    · omega

end ConcurrencyManager

namespace Concurrency

variable {Fn Ref : Type}

/-- `runTask(false)` has a task in its queue, and starts none. -/
def RefusedForAllocation (platform : Platform Fn) (fuel : Nat) (s : Concurrency Fn Ref) : Prop :=
  s.manager.taskQueue ≠ [] ∧
    ∃ s', s.testAndSet.2.guardedSection platform fuel false = .ok (none, s')

/-- A call is refused when no processor seems to be free. -/
theorem refusedForAllocation_iff {platform : Platform Fn} {fuel : Nat} {s : Concurrency Fn Ref} :
    s.RefusedForAllocation platform fuel ↔
      s.manager.taskQueue ≠ [] ∧ ¬ 0 < s.availableAllocation platform := by
  refine and_congr_right fun hne => ?_
  have hlast : s.testAndSet.2.manager.taskQueue.getLast? = some (s.manager.taskQueue.getLast hne) :=
    List.getLast?_eq_some_getLast hne
  have havailable : (s.testAndSet.2.manager.setResources platform s.testAndSet.2.statics).cpuCount -
      s.testAndSet.2.statics.runningScheduledTasks = s.availableAllocation platform := rfl
  simp only [guardedSection, hlast, havailable, Bool.or_false, decide_eq_true_eq]
  by_cases hfree : s.availableAllocation platform > 0
  -- the task that is started is part of the result
  · rw [if_pos hfree]
    refine iff_of_false (fun h => ?_) (fun h => h hfree)
    obtain ⟨s', h⟩ := h
    obtain ⟨s₁, -, hreturn⟩ := Except.bind_eq_ok_iff.mp h
    cases hreturn
  · rw [if_neg hfree]
    exact iff_of_true ⟨_, rfl⟩ hfree

/-- A refused call ends with the report of a task that cannot be run. -/
theorem RefusedForAllocation.runTask_eq {platform : Platform Fn} {fuel : Nat}
    {s : Concurrency Fn Ref} (h : s.RefusedForAllocation platform fuel)
    (hsection : s.statics.criticalSection = false) (hexit : s.manager.scheduledExitSet = false) :
    s.runTask platform fuel false = .error .assertion := by
  obtain ⟨s', hguarded⟩ := h.2
  simp only [testAndSet] at hguarded
  simp only [runTask, testAndSet, hsection, hexit, hguarded, Bool.not_false, Bool.and_self, if_true]
  rfl

/-- The difference that `runTask` takes for the free processors is positive, as long as it is in
    the range of a `short` and the counter of running tasks is below the processors. -/
theorem availableAllocation_pos_iff {platform : Platform Fn} {s : Concurrency Fn Ref}
    (hcount : 1 ≤ (s.manager.setResources platform s.statics).cpuCount.toInt) :
    let processors := (s.manager.setResources platform s.statics).cpuCount.toInt
    let running := s.statics.runningScheduledTasks.toInt
    0 < s.availableAllocation platform ↔ running < processors ∧ processors - running ≤ 32767 := by
  intro processors running
  have hprocessors := (s.manager.setResources platform s.statics).cpuCount.toInt_lt
  have hbelow := s.statics.runningScheduledTasks.toInt_lt
  have habove := s.statics.runningScheduledTasks.le_toInt
  have hzero : (0 : Int16).toInt = 0 := rfl
  rw [Int16.lt_iff_toInt_lt, hzero, availableAllocation, Int16.toInt_sub, Int.bmod_def]
  show 0 < (if (processors - running) % _ < _ then _ else _) ↔ _
  change 1 ≤ processors at hcount
  change processors < 2 ^ 15 at hprocessors
  change running < 2 ^ 15 at hbelow
  change -2 ^ 15 ≤ running at habove
  split
  · omega
  · omega

/-- One processor is left at least, and if no exit is requested a task is not refused for want of
    one. -/
structure LeavesProcessor (platform : Platform Fn) (fuel : Nat) (s : Concurrency Fn Ref) :
    Prop where
  cpuCount : 1 ≤ (s.manager.setResources platform s.statics).cpuCount
  notRefused : s.manager.scheduledExitSet = false → ¬ s.RefusedForAllocation platform fuel

/-- A processor is left exactly if there are not two more permanent tasks than hardware threads.
    A task that waits finds it exactly if the counter of running tasks is below the processors
    and not so far below them that the difference is none of a `short`. -/
theorem leavesProcessor_iff (platform : Platform Fn) (fuel : Nat) (s : Concurrency Fn Ref)
    (hhardware : platform.hardwareConcurrency.toNat ≤ 32767)
    (hpermanent : 1 ≤ s.statics.permanentThreadCount.toInt) :
    let difference := platform.hardwareConcurrency.toNat - s.statics.permanentThreadCount.toInt
    let running := s.statics.runningScheduledTasks.toInt
    s.LeavesProcessor platform fuel ↔
      -1 ≤ difference ∧
        (s.manager.scheduledExitSet = false → s.manager.taskQueue ≠ [] →
          running < max 1 difference ∧ max 1 difference - running ≤ 32767) := by
  intro difference running
  have hone := ConcurrencyManager.one_le_cpuCount_iff hhardware hpermanent s.manager
  have hcount := ConcurrencyManager.toInt_cpuCount hhardware hpermanent s.manager
  change _ = difference + ((if difference ≤ 0 then 1 else 0) + if difference < 0 then 1 else 0)
    at hcount
  -- the processors, where there are any
  have hmax : -1 ≤ difference →
      (s.manager.setResources platform s.statics).cpuCount.toInt = max 1 difference := by
    intro hle
    rw [hcount]
    split
    · split
      · omega
      · omega
    · split
      · omega
      · omega
  have hfound : -1 ≤ difference → (0 < s.availableAllocation platform ↔
      running < max 1 difference ∧ max 1 difference - running ≤ 32767) := by
    intro hle
    rw [← hmax hle]
    exact availableAllocation_pos_iff (by rw [hmax hle]; omega)
  constructor
  · rintro ⟨hprocessor, hnotRefused⟩
    have hle : -1 ≤ difference := by
      have := hone.mp hprocessor
      omega
    refine ⟨hle, fun hexit hqueue => (hfound hle).mp ?_⟩
    by_contra hnone
    exact hnotRefused hexit (refusedForAllocation_iff.mpr ⟨hqueue, hnone⟩)
  · rintro ⟨hle, hwaits⟩
    refine ⟨hone.mpr (by omega), fun hexit hrefused => ?_⟩
    obtain ⟨hqueue, hnone⟩ := refusedForAllocation_iff.mp hrefused
    exact hnone ((hfound hle).mpr (hwaits hexit hqueue))

/-- Four hardware threads, and a task that waits. -/
def oneWaiting : Concurrency Unit Unit :=
  StepRun.final (step Platform.quadCore 1) (construct Platform.quadCore {})
    [.enqueueTask false false false () []]

theorem leavesProcessor_oneWaiting : oneWaiting.LeavesProcessor .quadCore 1 :=
  (leavesProcessor_iff .quadCore 1 oneWaiting (by decide) (by decide)).mpr (by decide)

/-- When it is the 32765th one it is refused, though all others were run. -/
example : ¬ ({ oneWaiting with statics.runningScheduledTasks := -32765 } :
    Concurrency Unit Unit).LeavesProcessor .quadCore 1 := by
  intro h
  exact h.notRefused rfl (refusedForAllocation_iff.mpr ⟨by decide, by decide⟩)

/-- A machine with one hardware thread. -/
def singleCore : Platform Unit := { Platform.quadCore with hardwareConcurrency := 1 }

/-- Three permanent tasks leave no processor on one hardware thread. -/
theorem three_permanent_tasks_leave_none :
    ((construct singleCore { permanentThreadCount := 3 } : Concurrency Unit Unit).manager.cpuCount =
      0) ∧
    ¬ ∀ (platform : Platform Unit) (fuel : Nat) (s : Concurrency Unit Unit),
      platform.hardwareConcurrency.toNat ≤ 32767 → 1 ≤ s.statics.permanentThreadCount.toInt →
      s.LeavesProcessor platform fuel := by
  refine ⟨rfl, fun hall => ?_⟩
  have hcount := (hall singleCore 1 (construct singleCore { permanentThreadCount := 3 })
    (by decide) (by decide)).cpuCount
  exact absurd hcount (by decide)

end Concurrency

end NetworkedFS
